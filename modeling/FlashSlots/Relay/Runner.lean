import FlashSlots.Relay.Loop

namespace FlashSlots
namespace Relay

/-!
# Driving the relay in time

Here the surroundings of the loop are given: events arrive one after the other,
each after some delay, until the senders are gone, and only waiting takes time.

The ticker is due at once when it is first asked.  When it comes late, the next
tick follows a whole interval after it; a small delay is ignored.  Times are in
milliseconds.
-/

def tickInterval : Nat := 10

/-- A tick that is later than this is late. -/
def tickTolerance : Nat := 5

/-- The loop in its surroundings. -/
structure Runner extends Loop where
  now : Nat
  /-- When the ticker is due. -/
  due : Nat

namespace Runner

/-- The relay at the start of time. -/
def start (relay : Relay) : Runner := ⟨.start relay, 0, 0⟩

/-- When the ticker comes. -/
def tickTime (runner : Runner) : Nat := max runner.now runner.due

/-- When the ticker is due after it has come. -/
def nextDue (runner : Runner) : Nat :=
  if runner.due + tickTolerance < runner.tickTime then runner.tickTime + tickInterval
  else runner.due + tickInterval

theorem due_lt_nextDue (runner : Runner) : runner.due < runner.nextDue := by
  unfold nextDue tickTime tickInterval
  split <;> omega

/-- How long the ticker can still be waited for. -/
def patience (runner : Runner) : Nat :=
  match runner.relay.deadline? with
  | none => 0
  | some deadline => deadline - runner.due + 1

/-- The runner after a tick that leaves this loop. -/
def ticked (runner : Runner) (next : Loop) : Runner := ⟨next, runner.tickTime, runner.nextDue⟩

/-- A tick comes nearer to the deadline of the replay, or ends it. -/
theorem patience_ticked {pins : Nat -> Pins} {runner : Runner} {next : Loop}
    (woken : runner.wake (fun _ => runner.tickTime) pins .tick = some next)
    (empty : runner.relay.queue = []) : (runner.ticked next).patience < runner.patience := by
  rcases Loop.wake_eq_some_iff.mp woken with ⟨busy, same⟩
  rcases exists_deadline busy with ⟨deadline, running⟩
  unfold patience
  rw [running]
  cases goesOn : (runner.ticked next).relay.deadline? with
  | none => exact Nat.succ_pos _
  | some later =>
    have settled : (runner.settle (fun _ => runner.tickTime) pins).relay.deadline? = some later := by
      rw [← goesOn, ticked, same]
      rfl
    rcases Loop.deadline_settle settled with ⟨⟨_, early⟩, kept⟩
    cases running.symm.trans (kept empty)
    have due := runner.due_lt_nextDue
    have first : runner.due ≤ runner.tickTime := Nat.le_max_right _ _
    simp only [ticked] at early ⊢
    omega

/-- The ticker comes before this time. -/
def tickComes (runner : Runner) : Option Nat -> Bool
  | none => true
  | some time => decide (runner.tickTime < time)

/-- Tick while the loop waits for the ticker and it comes before the given
time. -/
def tickUntil (pins : Nat -> Pins) (time : Option Nat) (runner : Runner) : Runner :=
  if runner.tickComes time then
    match _woken : runner.wake (fun _ => runner.tickTime) pins .tick with
    | none => runner
    | some next => tickUntil pins time (runner.ticked next)
  else runner
  termination_by (runner.relay.queue.length, runner.patience)
  decreasing_by
    have emptied : (runner.ticked next).relay.queue = [] := by
      rw [ticked, (Loop.wake_eq_some_iff.mp _woken).2]
      exact Loop.queue_settle _ _ _
    rw [emptied]
    cases queue : runner.relay.queue with
    | nil => exact .right _ (patience_ticked _woken queue)
    | cons event rest => exact .left _ _ (Nat.succ_pos _)

/-- A wait has ended at this time, but not with the ticker. -/
def wakeAt (pins : Nat -> Pins) (time : Nat) (wake : Wake) (runner : Runner) : Runner :=
  match runner.wake (fun _ => time) pins wake with
  | none => runner
  | some next => ⟨next, time, runner.due⟩

/-- An event arrives. -/
def receive (pins : Nat -> Pins) (time : Nat) (event : Event) (runner : Runner) : Runner :=
  let waited := tickUntil pins (some time) runner
  wakeAt pins (max waited.now time) (.event event) waited

/-- Events arrive, each this long after the one before, and the channel is
closed behind them. -/
def feed (pins : Nat -> Pins) : Nat -> List (Nat × Event) -> Runner -> Runner
  | _, [], runner => tickUntil pins none (wakeAt pins runner.now .closed runner)
  | time, (delay, event) :: rest, runner =>
    feed pins (time + delay) rest (receive pins (time + delay) event runner)

/-- Run a relay until all events have arrived and no replay is under way. -/
def run (pins : Nat -> Pins) (events : List (Nat × Event)) (relay : Relay) : Runner :=
  feed pins 0 events (start relay)

end Runner
end Relay
end FlashSlots
