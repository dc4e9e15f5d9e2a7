import FlashSlots.Relay.Basic

namespace FlashSlots
namespace Relay

/-!
# Running the relay

A run repeats steps until there is nothing to do.  Every step reads the clock,
and the pins may answer each call in another way; so a run is given the
readings and the answers as sequences.

A run ends: an event leaves the queue for good, and without events a step that
has something to do sends octets of the replay or ends it.
-/

/-- How much of the replay is left, counting its end. -/
def work (relay : Relay) : Nat :=
  match relay.phase with
  | .passThrough => 0
  | .replaying replay => replay.remaining + 1

theorem remaining_advance (replay : Replay) (taken : Nat) :
    (replay.advance taken).remaining = replay.remaining - min taken replay.chunk.size := by
  simp only [Replay.remaining, Replay.advance]
  omega

theorem work_replayChunk {relay : Relay} {replay : Replay} {now : Nat} {pins : Pins}
    (progressed : (replayChunk replay now pins).progressed = true) :
    work { relay with phase := (replayChunk replay now pins).phase } < replay.remaining + 1 := by
  revert progressed
  unfold replayChunk
  split
  · intro _
    exact Nat.succ_pos _
  · split
    · intro _
      exact Nat.succ_pos _
    · next taken _ =>
      dsimp only
      split
      · intro impossible
        cases impossible
      · next busy =>
        split
        · intro _
          exact Nat.succ_pos _
        · next more =>
          intro _
          simp only [work, remaining_advance]
          rw [remaining_advance] at more
          have size := replay.size_chunk
          simp only [Replay.remaining, chunkSize] at busy more size ⊢
          omega

theorem queue_scan (relay : Relay) (now : Nat) (bytes : List UInt8) :
    (relay.scan now bytes).1.queue = relay.queue := by
  induction bytes generalizing relay with
  | nil => rfl
  | cons byte rest ih =>
    unfold scan
    split
    · exact ih _
    · split
      · rfl
      · exact ih _

theorem queue_handle (relay : Relay) (now : Nat) (event : Event) :
    (relay.handle now event).1.queue = relay.queue := by
  unfold handle
  split
  · exact queue_scan _ _ _
  all_goals rfl

theorem queue_handleNext (relay : Relay) (now : Nat) :
    (relay.handleNext now).relay.queue = relay.queue.tail := by
  unfold handleNext
  split
  · next empty => rw [empty]; rfl
  · next event rest queue =>
    rw [queue]
    exact queue_handle _ _ _

theorem queue_step (relay : Relay) (now : Nat) (pins : Pins) :
    (relay.step now pins).relay.queue = relay.queue.tail := by
  rw [← queue_handleNext relay now]
  unfold step
  dsimp only
  split <;> rfl

/-- A step that has something to do shortens the queue or the replay. -/
theorem step_decreases {relay : Relay} {now : Nat} {pins : Pins}
    (progressed : (relay.step now pins).progressed = true) :
    (relay.step now pins).relay.queue.length < relay.queue.length ∨
      (relay.step now pins).relay.queue.length = relay.queue.length ∧
        (relay.step now pins).relay.work < relay.work := by
  rw [queue_step]
  cases queue : relay.queue with
  | cons event rest =>
    left
    simp
  | nil =>
    right
    refine ⟨rfl, ?_⟩
    have idle : relay.handleNext now = ⟨relay, [], false⟩ := by
      unfold handleNext
      rw [queue]
    revert progressed
    unfold step
    rw [idle]
    dsimp only
    cases phase : relay.phase with
    | passThrough =>
      intro impossible
      cases impossible
    | replaying replay =>
      dsimp only [Bool.false_or]
      intro progressed
      have before : relay.work = replay.remaining + 1 := by
        unfold work
        rw [phase]
      rw [before]
      exact work_replayChunk progressed

/-- A relay after a run. -/
structure Ran where
  relay : Relay
  actions : List Action
  /-- How often the clock was read. -/
  readings : Nat
  /-- How often the pins were called. -/
  calls : Nat

/-- How often the pins are called by these actions. -/
def countDrives (actions : List Action) : Nat :=
  actions.countP fun action =>
    match action with
    | .drive _ _ => true
    | _ => false

/-- Step until there is nothing to do, with the clock readings and the pins'
answers from these positions on. -/
def runFrom (clock : Nat -> Nat) (pins : Nat -> Pins) (readings calls : Nat) (relay : Relay) :
    Ran :=
  let stepped := relay.step (clock readings) (pins calls)
  let calls := calls + countDrives stepped.actions
  if _progressed : stepped.progressed = true then
    let ran := runFrom clock pins (readings + 1) calls stepped.relay
    { ran with actions := stepped.actions ++ ran.actions }
  else ⟨stepped.relay, stepped.actions, readings + 1, calls⟩
  termination_by (relay.queue.length, relay.work)
  decreasing_by
    rcases step_decreases _progressed with shorter | ⟨same, less⟩
    · exact Prod.Lex.left _ _ shorter
    · exact same ▸ Prod.Lex.right _ less

theorem queue_of_idle {relay : Relay} {now : Nat} {pins : Pins}
    (idle : ¬ (relay.step now pins).progressed = true) : relay.queue = [] := by
  cases queue : relay.queue with
  | nil => rfl
  | cons event rest =>
    exfalso
    apply idle
    unfold step handleNext
    rw [queue]
    dsimp only
    split
    · rfl
    · rfl

/-- A run handles everything that is queued. -/
theorem queue_runFrom (clock : Nat -> Nat) (pins : Nat -> Pins) (readings calls : Nat)
    (relay : Relay) : (runFrom clock pins readings calls relay).relay.queue = [] := by
  fun_induction runFrom clock pins readings calls relay with
  | case1 readings calls relay stepped calls' progressed ran ih => exact ih
  | case2 readings calls relay stepped calls' idle =>
    rw [queue_step, queue_of_idle idle]
    rfl

/-! ## Deadlines -/

/-- When the replay under way is given up at the latest. -/
def deadline? (relay : Relay) : Option Nat :=
  match relay.phase with
  | .passThrough => none
  | .replaying replay => some (replay.startedAt + replayTimeout)

theorem exists_deadline {relay : Relay} (busy : relay.isReplaying = true) :
    ∃ deadline, relay.deadline? = some deadline := by
  cases phase : relay.phase with
  | passThrough =>
    rw [isReplaying, phase] at busy
    cases busy
  | replaying replay =>
    refine ⟨replay.startedAt + replayTimeout, ?_⟩
    rw [deadline?, phase]

/-- A replay only goes on before its deadline, and keeps it. -/
theorem early_of_replayChunk {replay next : Replay} {now : Nat} {pins : Pins}
    (goesOn : (replayChunk replay now pins).phase = .replaying next) :
    next.startedAt = replay.startedAt ∧ now < replay.startedAt + replayTimeout := by
  unfold replayChunk at goesOn
  split at goesOn
  · cases goesOn
  · next early =>
    have inTime : now < replay.startedAt + replayTimeout := by omega
    split at goesOn
    · cases goesOn
    · dsimp only at goesOn
      split at goesOn
      · cases goesOn
        exact ⟨rfl, inTime⟩
      · split at goesOn
        · cases goesOn
        · cases goesOn
          exact ⟨rfl, inTime⟩

/-- A step leaves no replay that is past its deadline.  Without an event no
replay starts. -/
theorem deadline_step {relay : Relay} {now deadline : Nat} {pins : Pins}
    (goesOn : (relay.step now pins).relay.deadline? = some deadline) :
    now < deadline ∧ (relay.queue = [] -> relay.deadline? = some deadline) := by
  unfold step deadline? at goesOn
  dsimp only at goesOn
  cases handled : (relay.handleNext now).relay.phase with
  | passThrough =>
    rw [handled] at goesOn
    dsimp only at goesOn
    rw [handled] at goesOn
    cases goesOn
  | replaying replay =>
    rw [handled] at goesOn
    dsimp only at goesOn
    split at goesOn
    · cases goesOn
    · next phase =>
      rcases early_of_replayChunk phase with ⟨same, early⟩
      rw [same] at goesOn
      cases goesOn
      refine ⟨early, fun empty => ?_⟩
      rw [handleNext, empty] at handled
      rw [deadline?, handled]

/-- A run leaves no replay that is past its deadline, either. -/
theorem deadline_runFrom {clock : Nat -> Nat} {pins : Nat -> Pins} {readings calls : Nat}
    {relay : Relay} {deadline : Nat}
    (goesOn : (runFrom clock pins readings calls relay).relay.deadline? = some deadline) :
    (∃ reading, clock reading < deadline) ∧
      (relay.queue = [] -> relay.deadline? = some deadline) := by
  fun_induction runFrom clock pins readings calls relay with
  | case1 readings calls relay stepped calls' progressed ran ih =>
    rcases ih goesOn with ⟨early, same⟩
    refine ⟨early, fun empty => ?_⟩
    have still : stepped.relay.queue = [] := by
      rw [queue_step, empty]
      rfl
    exact (deadline_step (same still)).2 empty
  | case2 readings calls relay stepped calls' idle =>
    rcases deadline_step goesOn with ⟨early, same⟩
    exact ⟨⟨readings, early⟩, same⟩

/-- Step until there is nothing to do. -/
def runUntilIdle (clock : Nat -> Nat) (pins : Nat -> Pins) (relay : Relay) : Ran :=
  runFrom clock pins 0 0 relay

end Relay
end FlashSlots
