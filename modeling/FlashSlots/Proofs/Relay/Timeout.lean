import FlashSlots.Proofs.Compression.Limit
import FlashSlots.Proofs.Relay.Replays

namespace FlashSlots
namespace Relay

/-!
# How long a replay can last

The time is checked before a chunk is offered to the pins, in every step and
whatever the event was.  So a step only leaves a replay under way that has
octets left and is younger than the timeout, and a step that finds it older
gives the pins back without using them.  Nothing is assumed of the order of the
times.
-/

/-- At its deadline a replay ends, however much of it is left. -/
theorem replayChunk_of_late {replay : Replay} {now : Nat}
    (late : replay.startedAt + replayTimeout ≤ now) (pins : Pins) :
    replayChunk replay now pins =
      ⟨.passThrough, [.warn (.timedOut replay.trigger replay.sent replay.vector.size)], true⟩ :=
  if_pos (Nat.le_sub_of_add_le' late)

namespace Turn

variable {turn : Turn} {replay : Replay}

/-- A step leaves no replay that is past its deadline. -/
theorem early_of_replaying (busy : turn.after.phase = .replaying replay) :
    turn.now < replay.startedAt + replayTimeout := by
  have deadline : turn.after.deadline? = some (replay.startedAt + replayTimeout) := by
    rw [deadline?, busy]
  exact (deadline_step deadline).1

/-- The step does not use the pins. -/
def SparesPins (turn : Turn) : Prop :=
  ∀ chunk answer, Action.drive chunk answer ∉ turn.actions

theorem sparesPins_of_offers (none : turn.offers = []) : turn.SparesPins := by
  intro chunk answer driven
  have member : Offer.mk chunk answer ∈ turn.offers :=
    List.mem_filterMap.mpr ⟨_, driven, rfl⟩
  rw [none] at member
  cases member

/-- A step that finds a replay at its deadline ends it and spares the pins. -/
theorem ends_of_late (busy : turn.before.phase = .replaying replay)
    (late : replay.startedAt + replayTimeout ≤ turn.now) :
    turn.after.phase = .passThrough ∧ turn.SparesPins := by
  have middle := middle_of_replaying busy
  have ended := replayChunk_of_late late turn.pins
  constructor
  · rw [phase_after_of_replaying middle, ended]
  · apply sparesPins_of_offers
    rw [offers_of_replaying middle, ended]
    rfl

end Turn

/-- After every step of every history a replay under way has octets left, its
vector is not longer than a stub may be, and its deadline has not come.  A step
that finds a replay at its deadline or behind it ends it without using the
pins, whatever event it handles and however much is left.  The times may come
in any order. -/
theorem replays_meet_deadline (stubs : StubTable) (operations : List Operation) :
    ∀ turn ∈ turns (new stubs) operations,
      (∀ replay, turn.after.phase = .replaying replay ->
        replay.sent < replay.vector.size ∧ replay.vector.size ≤ StubTable.maxVectorSize ∧
          turn.now < replay.startedAt + replayTimeout) ∧
      ∀ replay, turn.before.phase = .replaying replay ->
        replay.startedAt + replayTimeout ≤ turn.now ->
          turn.after.phase = .passThrough ∧ turn.SparesPins := by
  intro turn listed
  rcases List.append_of_mem listed with ⟨front, back, shape⟩
  have before : Reached stubs front turn.before := Reached.start.before_turn shape
  refine ⟨?_, fun replay => Turn.ends_of_late⟩
  intro replay busy
  have accounted := before.step.accounted
  rw [busy] at accounted
  rcases accounted with ⟨progress, left⟩
  refine ⟨?_, StubTable.size_le_of_vector progress.playable, Turn.early_of_replaying busy⟩
  rw [Replay.remaining] at left
  omega

/-- The pins are busy all the time, and the host goes on talking.  The last
step comes when the time is over. -/
def stalledReplay : List Operation :=
  [.push ⟨.uartFromTarget, "BOOTLOADER\n".toUTF8.toList⟩, .step 100 fun _ => .ok 0,
    .push ⟨.uartFromHost, [7]⟩, .step 2099 fun _ => .ok 0,
    .push ⟨.jtagFromHost, [8]⟩, .step 2100 fun _ => .ok 0]

theorem stalledReplay_meets_deadline :
    ∃ first second third replay, turns (new shortStubs) stalledReplay = [first, second, third] ∧
      second.after.phase = .replaying replay ∧ replay.startedAt = 100 ∧ second.now = 2099 ∧
      (replay.sent < replay.vector.size ∧ replay.vector.size ≤ StubTable.maxVectorSize ∧
        second.now < replay.startedAt + replayTimeout) ∧
      third.before.phase = .replaying replay ∧
      replay.startedAt + replayTimeout ≤ third.now ∧
      third.after.phase = .passThrough ∧ third.SparesPins := by
  let first : Turn := ⟨final (new shortStubs) (stalledReplay.take 1), 100, fun _ => .ok 0⟩
  let second : Turn := ⟨final (new shortStubs) (stalledReplay.take 3), 2099, fun _ => .ok 0⟩
  let third : Turn := ⟨final (new shortStubs) (stalledReplay.take 5), 2100, fun _ => .ok 0⟩
  let replay : Replay := ⟨.bootloader, ⟨#[1, 2, 3]⟩, 0, 100, by decide⟩
  have shape : turns (new shortStubs) stalledReplay = [first, second, third] := rfl
  have busy : second.after.phase = .replaying replay := by decide +kernel
  have still : third.before.phase = .replaying replay := by decide +kernel
  have listed : second ∈ turns (new shortStubs) stalledReplay ∧
      third ∈ turns (new shortStubs) stalledReplay := by
    rw [shape]
    simp
  have goesOn := (replays_meet_deadline shortStubs stalledReplay second listed.1).1 replay busy
  have ends := (replays_meet_deadline shortStubs stalledReplay third listed.2).2 replay still
    (Nat.le_refl 2100)
  exact ⟨first, second, third, replay, shape, busy, rfl, rfl, goesOn, still, Nat.le_refl 2100, ends⟩

end Relay
end FlashSlots
