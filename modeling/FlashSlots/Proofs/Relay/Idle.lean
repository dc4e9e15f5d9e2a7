import FlashSlots.Proofs.Compression.Limit
import FlashSlots.Proofs.Relay.History

namespace FlashSlots
namespace Relay

/-!
# Running until nothing is left to do

A run of the relay is a loop of steps.  It is compared with the steps
themselves: `Cycle.ahead` goes on from step to step without asking whether there
was anything to do, and a run stops at the first of these steps that had nothing
to do.

An event may start a replay, and a replay is never longer than a stub may be.
So every event stands for a bounded amount of work, and the load of a relay,
which counts this work for each event that waits, bounds the number of steps.
-/

namespace Turn

/-- The step had something to do. -/
def progressed (turn : Turn) : Bool := (turn.before.step turn.now turn.pins).progressed

end Turn

/-- How far a run has come: the relay, and how often the clock and the pins have
been asked. -/
structure Cycle where
  relay : Relay
  readings : Nat
  calls : Nat

namespace Cycle

variable (clock : Nat -> Nat) (pins : Nat -> Pins)

/-- The step that comes next. -/
def turn (cycle : Cycle) : Turn := ⟨cycle.relay, clock cycle.readings, pins cycle.calls⟩

def next (cycle : Cycle) : Cycle :=
  ⟨(cycle.turn clock pins).after, cycle.readings + 1,
    cycle.calls + countDrives (cycle.turn clock pins).actions⟩

/-- After so many steps, whether or not they had something to do. -/
def ahead (cycle : Cycle) : Nat -> Cycle
  | 0 => cycle
  | count + 1 => (cycle.next clock pins).ahead count

/-- The step behind so many others. -/
def turnAt (cycle : Cycle) (count : Nat) : Turn := (cycle.ahead clock pins count).turn clock pins

end Cycle

/-! ## The load -/

/-- The most work that an event can leave behind, and the event itself. -/
def eventLoad : Nat := StubTable.maxVectorSize + 2

/-- What is left to do, at most. -/
def load (relay : Relay) : Nat := relay.queue.length * eventLoad + relay.work

theorem work_scan_le (relay : Relay) (now : Nat) (bytes : List UInt8) :
    (relay.scan now bytes).1.work ≤ max relay.work (StubTable.maxVectorSize + 1) := by
  induction bytes generalizing relay with
  | nil => exact Nat.le_max_left _ _
  | cons byte rest ih =>
    unfold scan
    split
    · exact ih _
    · split
      · next vector found =>
        have short := StubTable.size_le_of_vector found
        simp only [work, Replay.remaining, Replay.start]
        omega
      · exact ih _

theorem work_handle_le (relay : Relay) (now : Nat) (event : Event) :
    (relay.handle now event).1.work ≤ max relay.work (StubTable.maxVectorSize + 1) := by
  by_cases uart : event.port = .uartFromTarget
  · unfold handle
    rw [uart]
    cases relay.isReplaying with
    | false => exact work_scan_le relay now event.bytes
    | true => exact Nat.le_max_left _ _
  · rw [handle_of_ne uart]
    exact Nat.le_max_left _ _

/-- A chunk that changes nothing was offered to busy pins. -/
theorem replayChunk_of_idle {replay : Replay} {now : Nat} {pins : Pins}
    (idle : (replayChunk replay now pins).progressed = false) :
    0 < replay.remaining ∧
      replayChunk replay now pins = ⟨.replaying replay, [.drive replay.chunk (.ok 0)], false⟩ := by
  unfold replayChunk at idle ⊢
  split at idle
  · cases idle
  · next early =>
    rw [if_neg early]
    split at idle
    · cases idle
    · next count answered =>
      dsimp only at idle ⊢
      split at idle
      · next busy =>
        rcases busy with ⟨nothing, left⟩
        subst nothing
        exact ⟨left, by rw [if_pos ⟨rfl, left⟩]⟩
      · split at idle <;> cases idle

namespace Turn

variable {turn : Turn}

theorem work_middle_le (turn : Turn) :
    turn.middle.work ≤ max turn.before.work (StubTable.maxVectorSize + 1) := by
  cases found : turn.handled with
  | none =>
    rw [(handleNext_of_idle found).1]
    exact Nat.le_max_left _ _
  | some event =>
    rw [(handleNext_of_handled found).1]
    exact work_handle_le turn.waiting turn.now event

theorem work_after_le (turn : Turn) : turn.after.work ≤ turn.middle.work := by
  cases phase : turn.middle.phase with
  | passThrough => exact Nat.le_of_eq (congrArg work (step_of_passThrough phase).1)
  | replaying replay =>
    have due : turn.middle.work = replay.remaining + 1 := by rw [work, phase]
    rw [(step_of_replaying phase).1, due]
    cases progressed : (replayChunk replay turn.now turn.pins).progressed with
    | true => exact Nat.le_of_lt (work_replayChunk progressed)
    | false =>
      rw [(replayChunk_of_idle progressed).2]
      exact Nat.le_refl _

/-- Every step that has something to do lessens the load. -/
theorem load_after_lt (progressed : turn.progressed = true) :
    turn.after.load < turn.before.load := by
  unfold load
  rcases step_decreases progressed with shorter | ⟨same, less⟩
  · change turn.after.queue.length < turn.before.queue.length at shorter
    have middle := turn.work_middle_le
    have after := turn.work_after_le
    have event : (turn.after.queue.length + 1) * eventLoad ≤ turn.before.queue.length * eventLoad :=
      Nat.mul_le_mul_right eventLoad shorter
    have room : StubTable.maxVectorSize + 1 < eventLoad := Nat.lt_succ_self _
    rw [Nat.succ_mul] at event
    omega
  · change turn.after.queue.length = turn.before.queue.length at same
    change turn.after.work < turn.before.work at less
    rw [same]
    omega

/-- A step without anything to do leaves no event behind, and no replay but one
whose chunk the pins did not take. -/
theorem drained_of_idle (idle : turn.progressed = false) :
    turn.after.queue = [] ∧
      (turn.after.phase = .passThrough ∨
        ∃ replay, turn.after.phase = .replaying replay ∧ replay.sent < replay.vector.size ∧
          turn.actions = [.drive replay.chunk (.ok 0)]) := by
  have empty : turn.before.queue = [] := queue_of_idle (ne_true_of_eq_false idle)
  have unhandled : turn.handled = none := by rw [handled, empty, List.head?_nil]
  have reactions := (handleNext_of_idle unhandled).2
  refine ⟨by rw [queue_after, empty, List.tail_nil], ?_⟩
  cases phase : turn.middle.phase with
  | passThrough =>
    left
    rw [(step_of_passThrough phase).1, phase]
  | replaying replay =>
    have waits : (replayChunk replay turn.now turn.pins).progressed = false := by
      change (turn.before.step turn.now turn.pins).progressed = false at idle
      change (turn.before.handleNext turn.now).relay.phase = .replaying replay at phase
      unfold step at idle
      dsimp only at idle
      rw [phase] at idle
      exact (Bool.or_eq_false_iff.mp idle).2
    rcases replayChunk_of_idle waits with ⟨left, same⟩
    right
    refine ⟨replay, ?_, Nat.lt_of_sub_pos left, ?_⟩
    · rw [(step_of_replaying phase).1, same]
    · rw [(step_of_replaying phase).2, same, reactions, List.nil_append]

end Turn

/-! ## The loop -/

/-- These are the steps of a run: the last one has nothing to do, and all others
have. -/
structure Runs (clock : Nat -> Nat) (pins : Nat -> Pins) (cycle : Cycle) (count : Nat)
    (ran : Ran) : Prop where
  busy : ∀ earlier < count, (cycle.turnAt clock pins earlier).progressed = true
  idle : (cycle.turnAt clock pins count).progressed = false
  relay : ran.relay = (cycle.turnAt clock pins count).after
  actions : ran.actions =
    (List.range (count + 1)).flatMap fun step => (cycle.turnAt clock pins step).actions
  readings : ran.readings = cycle.readings + count + 1

theorem Runs.now {clock : Nat -> Nat} {pins : Nat -> Pins} {cycle : Cycle}
    (idle : (cycle.turn clock pins).progressed = false) :
    Runs clock pins cycle 0 (runFrom clock pins cycle.readings cycle.calls cycle.relay) := by
  have stopped : ¬ (cycle.relay.step (clock cycle.readings) (pins cycle.calls)).progressed = true :=
    ne_true_of_eq_false idle
  rw [runFrom, dif_neg stopped]
  exact ⟨fun _ impossible => absurd impossible (Nat.not_lt_zero _), idle, rfl,
    (List.append_nil _).symm, rfl⟩

theorem Runs.later {clock : Nat -> Nat} {pins : Nat -> Pins} {cycle : Cycle} {count : Nat}
    (progressed : (cycle.turn clock pins).progressed = true)
    (rest : Runs clock pins (cycle.next clock pins) count
      (runFrom clock pins (cycle.next clock pins).readings (cycle.next clock pins).calls
        (cycle.next clock pins).relay)) :
    Runs clock pins cycle (count + 1)
      (runFrom clock pins cycle.readings cycle.calls cycle.relay) := by
  have goesOn : (cycle.relay.step (clock cycle.readings) (pins cycle.calls)).progressed = true :=
    progressed
  rw [runFrom, dif_pos goesOn]
  refine ⟨?_, rest.idle, rest.relay, ?_, ?_⟩
  · intro earlier before
    cases earlier with
    | zero => exact progressed
    | succ earlier => exact rest.busy earlier (Nat.lt_of_succ_lt_succ before)
  · rw [List.range_succ_eq_map, List.flatMap_cons, List.flatMap_map]
    exact congrArg _ rest.actions
  · refine rest.readings.trans ?_
    change cycle.readings + 1 + count + 1 = _
    omega

/-- The load bounds the number of steps. -/
theorem exists_runs (clock : Nat -> Nat) (pins : Nat -> Pins) (cycle : Cycle) :
    ∃ count ≤ cycle.relay.load,
      Runs clock pins cycle count (runFrom clock pins cycle.readings cycle.calls cycle.relay) := by
  cases progressed : (cycle.turn clock pins).progressed with
  | false => exact ⟨0, Nat.zero_le _, .now progressed⟩
  | true =>
    have less : (cycle.next clock pins).relay.load < cycle.relay.load :=
      Turn.load_after_lt progressed
    rcases exists_runs clock pins (cycle.next clock pins) with ⟨count, bounded, rest⟩
    exact ⟨count + 1, Nat.lt_of_le_of_lt bounded less, rest.later progressed⟩
  termination_by cycle.relay.load

/-- Whatever the clock shows and the pins answer, a run stops after a number of
steps that the load of the relay bounds, at the first step that has nothing to
do.  Then no event is left.  A replay is only left if some of its vector is, and
if the last step has offered a chunk to the pins and they have taken nothing of
it. -/
theorem runUntilIdle_drains (clock : Nat -> Nat) (pins : Nat -> Pins) (relay : Relay) :
    ∃ count ≤ relay.queue.length * (StubTable.maxVectorSize + 2) + relay.work,
      Runs clock pins ⟨relay, 0, 0⟩ count (runUntilIdle clock pins relay) ∧
      (runUntilIdle clock pins relay).relay.queue = [] ∧
      ((runUntilIdle clock pins relay).relay.phase = .passThrough ∨
        ∃ replay, (runUntilIdle clock pins relay).relay.phase = .replaying replay ∧
          replay.sent < replay.vector.size ∧
          ((⟨relay, 0, 0⟩ : Cycle).turnAt clock pins count).actions =
            [.drive replay.chunk (.ok 0)]) := by
  rcases exists_runs clock pins ⟨relay, 0, 0⟩ with ⟨count, bounded, runs⟩
  have same : (runUntilIdle clock pins relay).relay =
      ((⟨relay, 0, 0⟩ : Cycle).turnAt clock pins count).after := runs.relay
  rw [same]
  exact ⟨count, bounded, runs, Turn.drained_of_idle runs.idle⟩

end Relay
end FlashSlots
