import FlashSlots.Flash.Station
import FlashSlots.Proofs.Flash.Trace

namespace FlashSlots
namespace Flash

/-!
# The requests of a session

A session opens its programmer, asks it for the writes of a plan and closes it
again.  What it asks for can be recorded like the writes of an execution, and
the record and the result of a session belong together: there is a report only
if opening, every write and closing went well, and otherwise the error names
the request that failed first.

A station that keeps such a record may leave it among the files, where it can
be seen that there was a session, and what happened in it.
-/

/-- What a session may ask for, and what comes of it.  The programmer is closed
whenever it was opened. -/
inductive Attempt (name : String) (mode : Mode) (plan : WritePlan) :
    List Request -> Except TransportError Report -> Prop where
  | unopened (fault : Fault) :
    Attempt name mode plan [.acquire (.error fault)] (.error (.unavailable name fault.message))
  /-- A write fails, and the programmer is closed, whether this works or not. -/
  | aborted {asked : List Request} {cause : TransportError}
      (course : Course mode plan.ops asked (.error cause)) (closing : Except Fault Unit) :
    Attempt name mode plan (.acquire (.ok ()) :: (asked ++ [.release closing])) (.error cause)
  | unclosed {asked : List Request} {report : Report}
      (course : Course mode plan.ops asked (.ok report)) (fault : Fault) :
    Attempt name mode plan (.acquire (.ok ()) :: (asked ++ [.release (.error fault)]))
      (.error (.closeFailed name fault.message))
  | completed {asked : List Request} {report : Report}
      (course : Course mode plan.ops asked (.ok report)) :
    Attempt name mode plan (.acquire (.ok ()) :: (asked ++ [.release (.ok ())])) (.ok report)

section

variable {σ : Type} (programmer : Programmer σ) (mode : Mode)

/-- A record that is there already stays in front of the new requests. -/
theorem issueFrom_recording_append (total : Nat) (written skipped : List String)
    (ops : List WriteOp) (state : σ) (front record : List Request) :
    (issueFrom programmer.recording mode total written skipped ops (state, front ++ record)).2.2 =
      front ++
        (issueFrom programmer.recording mode total written skipped ops (state, record)).2.2 := by
  induction ops generalizing written skipped state record with
  | nil => rfl
  | cons op rest ih =>
    cases admitted : mode.admits op with
    | true =>
      rcases call : programmer.write mode op.kind op.address op.payload state with
        ⟨⟨⟩ | ⟨⟨⟩⟩, next⟩
      · rw [issueFrom_of_fault admitted (recording_write call _),
          issueFrom_of_fault admitted (recording_write call _), List.append_assoc]
      · rw [issueFrom_of_done admitted (recording_write call _),
          issueFrom_of_done admitted (recording_write call _), List.append_assoc]
        exact ih ..
    | false =>
      rw [issueFrom_of_not admitted, issueFrom_of_not admitted]
      exact ih ..

theorem execute_recording (plan : WritePlan) (state : σ) (front : List Request) :
    execute programmer.recording mode plan (state, front) =
      ((execute programmer mode plan state).1, ((execute programmer mode plan state).2,
        front ++ requests programmer mode plan state)) := by
  have same := issueFrom_recording programmer mode plan.ops.length [] [] plan.ops state front
  have record :=
    issueFrom_recording_append programmer mode plan.ops.length [] [] plan.ops state front []
  rw [List.append_nil] at record
  exact Prod.ext same.1 (Prod.ext same.2 record)

variable {programmer mode} {plan : WritePlan} {state next last : σ}

theorem Session.run_of_fault {fault : Fault}
    (failed : programmer.acquire state = (.error fault, next)) :
    Session.run programmer mode plan state =
      (.unavailable (.unavailable programmer.name fault.message), next) := by
  simp only [Session.run, Session.acquire, failed]

theorem Session.run_of_abort {abort : Abort} (opened : programmer.acquire state = (.ok (), next))
    (executed : execute programmer mode plan next = (.error abort, last)) :
    Session.run programmer mode plan state =
      (.aborted abort (Session.finish programmer last).1,
        (Session.finish programmer last).2) := by
  simp only [Session.run, Session.acquire, opened, executed]

theorem Session.run_of_report {report : Report}
    (opened : programmer.acquire state = (.ok (), next))
    (executed : execute programmer mode plan next = (.ok report, last)) :
    Session.run programmer mode plan state =
      (.completed report (Session.finish programmer last).1,
        (Session.finish programmer last).2) := by
  simp only [Session.run, Session.acquire, opened, executed]

theorem recording_acquire {answer : Except Fault Unit}
    (opened : programmer.acquire state = (answer, next)) :
    programmer.recording.acquire (state, []) = (answer, (next, [.acquire answer])) := by
  simp only [Programmer.recording, opened, List.nil_append]

theorem finish_recording (record : List Request) :
    Session.finish programmer.recording (state, record) =
      ((Session.finish programmer state).1, ((Session.finish programmer state).2,
        record ++ [.release (programmer.release state).1])) := by
  rcases released : programmer.release state with ⟨fault | ⟨⟨⟩⟩, closed⟩
  all_goals simp only [Session.finish, Programmer.recording, released]

variable (programmer mode plan state)

/-- A record has no effect on a session, and shows an attempt with its result. -/
theorem attempt_of_session :
    ∃ record, Attempt programmer.name mode plan record
        (Session.run programmer mode plan state).1.result ∧
      Session.run programmer.recording mode plan (state, []) =
        ((Session.run programmer mode plan state).1,
          ((Session.run programmer mode plan state).2, record)) := by
  rcases opened : programmer.acquire state with ⟨fault | ⟨⟨⟩⟩, next⟩
  · rw [Session.run_of_fault opened, Session.run_of_fault (recording_acquire opened)]
    exact ⟨_, .unopened fault, rfl⟩
  · have course := course_of_execute programmer mode plan next
    have recorded := execute_recording programmer mode plan next [.acquire (.ok ())]
    rcases executed : execute programmer mode plan next with ⟨abort | report, last⟩
    · rw [executed] at course recorded
      rw [Session.run_of_abort opened executed,
        Session.run_of_abort (recording_acquire opened) recorded, finish_recording]
      exact ⟨_, .aborted course _, rfl⟩
    · rw [executed] at course recorded
      rw [Session.run_of_report opened executed,
        Session.run_of_report (recording_acquire opened) recorded, finish_recording]
      -- Only behind a complete execution does closing decide about the result.
      rcases released : programmer.release last with ⟨fault | ⟨⟨⟩⟩, closed⟩
      · simp only [Session.finish, released]
        exact ⟨_, .unclosed course fault, rfl⟩
      · simp only [Session.finish, released]
        exact ⟨_, .completed course, rfl⟩

end

/-! ## Stations that note what they are asked for -/

namespace Station

/-- The station with a record of what its programmer is asked for.  What becomes
of the record is left open: `leave` puts it among the files. -/
def noting (leave : List Request -> FileTree -> FileTree) (station : Station) : Station where
  State := station.State × List Request
  programmer := station.programmer.recording
  setUp := fun tree => (station.setUp tree, [])
  files := fun (state, record) => leave record (station.files state)

theorem run_noting (station : Station) (mode : Mode) (plan : WritePlan) (tree : FileTree) :
    ∃ record, Attempt station.programmer.name mode plan record
        (station.run mode plan tree).1.result ∧
      ∀ leave, (station.noting leave).run mode plan tree =
        ((station.run mode plan tree).1, leave record (station.run mode plan tree).2) := by
  rcases attempt_of_session station.programmer mode plan (station.setUp tree) with
    ⟨record, attempt, recorded⟩
  refine ⟨record, attempt, fun leave => ?_⟩
  have session : Session.run (station.noting leave).programmer mode plan
      ((station.noting leave).setUp tree) = _ := recorded
  rw [run, session]
  rfl

end Station
end Flash
end FlashSlots
