import FlashSlots.Flash.Execution

namespace FlashSlots
namespace Flash

/-!
# Sessions

A session opens a programmer, executes a plan and closes the programmer
again.  It closes exactly what it has opened: a programmer that does not open
is left alone, and one that has failed a write is closed all the same.  Only
after a complete execution does a failing close count as the result; otherwise
it is reported as a warning.
-/

/-- How a session ended. -/
inductive Outcome where
  /-- The programmer did not open. -/
  | unavailable (cause : TransportError)
  /-- A write failed; closing may have failed, too. -/
  | aborted (abort : Abort) (closing : Except TransportError Unit)
  /-- Every write went through. -/
  | completed (report : Report) (closing : Except TransportError Unit)

variable {σ : Type}

namespace Session

/-- Open the programmer. -/
def acquire (programmer : Programmer σ) (state : σ) : Except TransportError Unit × σ :=
  match programmer.acquire state with
  | (.ok (), next) => (.ok (), next)
  | (.error fault, next) => (.error (.unavailable programmer.name fault.message), next)

/-- Close the programmer. -/
def finish (programmer : Programmer σ) (state : σ) : Except TransportError Unit × σ :=
  match programmer.release state with
  | (.ok (), next) => (.ok (), next)
  | (.error fault, next) => (.error (.closeFailed programmer.name fault.message), next)

/-- Execute a plan in a session of its own. -/
def run (programmer : Programmer σ) (mode : Mode) (plan : WritePlan) (state : σ) :
    Outcome × σ :=
  match acquire programmer state with
  | (.error cause, next) => (.unavailable cause, next)
  | (.ok (), opened) =>
    match execute programmer mode plan opened with
    | (.ok report, written) =>
      let (closing, closed) := finish programmer written
      (.completed report closing, closed)
    | (.error abort, written) =>
      let (closing, closed) := finish programmer written
      (.aborted abort closing, closed)

end Session

namespace Outcome

/-- The report, if everything went through. -/
def result : Outcome -> Except TransportError Report
  | unavailable cause => .error cause
  | aborted abort _ => .error abort.error
  | completed report closing => closing.map fun _ => report

/-- The warning about a programmer that did not close after a failed write. -/
def closeWarning : Except TransportError Unit -> List String
  | .error (.closeFailed programmer cause) =>
    ["Programmer '" ++ programmer ++ "' did not close cleanly: " ++ cause]
  | _ => []

/-- The warnings of a session. -/
def warnings : Outcome -> List String
  | unavailable _ => []
  | aborted abort closing => abort.warning :: closeWarning closing
  | completed _ _ => []

end Outcome
end Flash
end FlashSlots
