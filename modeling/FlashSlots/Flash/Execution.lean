import FlashSlots.Flash.Programmer
import FlashSlots.Package.Plan

namespace FlashSlots
namespace Flash

/-!
# Executing a plan

The writes of a plan are issued in plan order, and the first one that fails
ends the execution.  What was written before stays in flash.  As the manifest
is the last write of a plan, a plan that was cut short leaves the manifest page
of its slot alone.

In volatile mode only bitstreams have a meaning; the other writes are skipped.
-/

/-- Why a plan was not written to the end. -/
inductive TransportError where
  | writeFailed (region : String) (address : UInt32) (cause : String)
  | timeout (region : String) (address : UInt32) (after : Duration)
  /-- The programmer could not be opened. -/
  | unavailable (programmer cause : String)
  /-- The programmer could not be closed; earlier writes may be lost. -/
  | closeFailed (programmer cause : String)
  deriving DecidableEq

namespace TransportError

def message : TransportError -> String
  | writeFailed region address cause =>
    "TransportError::WriteFailed: writing '" ++ region ++ "' at " ++
      Text.address address.toNat ++ " failed: " ++ cause
  | timeout region address after =>
    "TransportError::Timeout: writing '" ++ region ++ "' at " ++
      Text.address address.toNat ++ " did not finish within " ++ after.describe
  | unavailable programmer cause =>
    "TransportError::Unavailable: programmer '" ++ programmer ++
      "' could not be acquired: " ++ cause
  | closeFailed programmer cause =>
    "TransportError::CloseFailed: programmer '" ++ programmer ++
      "' did not close cleanly: " ++ cause

end TransportError

namespace Mode

/-- The write has a meaning in this mode. -/
def issues : Mode -> WriteOp -> Bool
  | persistent, _ => true
  | volatile, op => op.kind == .bit

end Mode

/-- The names of the regions that were written and that were skipped, in plan
order. -/
structure Report where
  written : List String
  skipped : List String
  deriving DecidableEq

/-- The failure of a write. -/
structure Abort where
  op : WriteOp
  fault : Fault
  /-- How many writes went through. -/
  done : Nat
  /-- How many writes the plan has. -/
  total : Nat

namespace Abort

def error (abort : Abort) : TransportError :=
  match abort.fault with
  | .failed cause => .writeFailed abort.op.region abort.op.address cause
  | .timeout after => .timeout abort.op.region abort.op.address after

def warning (abort : Abort) : String :=
  "Aborting after '" ++ abort.op.region ++ "': " ++ toString abort.done ++ " of " ++
    toString abort.total ++ " writes done"

end Abort

variable {σ : Type}

/-- Issue writes one by one.  `written` and `skipped` hold the names of
earlier writes, the latest first. -/
def issueFrom (programmer : Programmer σ) (mode : Mode) (total : Nat)
    (written skipped : List String) : List WriteOp -> σ -> Except Abort Report × σ
  | [], state => (.ok ⟨written.reverse, skipped.reverse⟩, state)
  | op :: rest, state =>
    if mode.issues op then
      match programmer.write mode op.kind op.address op.payload state with
      | (.ok (), next) =>
        issueFrom programmer mode total (op.region :: written) skipped rest next
      | (.error fault, next) => (.error ⟨op, fault, written.length, total⟩, next)
    else issueFrom programmer mode total written (op.region :: skipped) rest state

/-- Issue the writes of a plan. -/
def execute (programmer : Programmer σ) (mode : Mode) (plan : WritePlan) (state : σ) :
    Except Abort Report × σ :=
  issueFrom programmer mode plan.ops.length [] [] plan.ops state

/-- What executing a plan would do, a line for each write. -/
def dryRun (programmer : Programmer σ) (mode : Mode) (plan : WritePlan) : List String :=
  plan.ops.map fun op =>
    if mode.issues op then programmer.describe mode op
    else "# skipped in " ++ mode.describe ++ " mode: " ++ op.describe

end Flash
end FlashSlots
