import FlashSlots.Proofs.Relay.History

namespace FlashSlots
namespace Relay

/-!
# What the relay forwards

UART traffic passes through the relay in every phase, in order and unchanged.
JTAG traffic passes through while no replay is under way and is dropped while
one is, so that the pins have one owner at a time.
-/

/-- The port carries JTAG traffic. -/
def Port.isJtag : Port -> Bool
  | .jtagFromHost => true
  | .jtagFromTarget => true
  | .uartFromTarget => false
  | .uartFromHost => false

def Action.forwarded? : Action -> Option Event
  | .forward event => some event
  | .drive _ _ => none
  | .warn _ => none

def forwards (actions : List Action) : List Event := actions.filterMap Action.forwarded?

theorem mem_forwards {event : Event} {actions : List Action} :
    event ∈ forwards actions ↔ Action.forward event ∈ actions := by
  rw [forwards, List.mem_filterMap]
  constructor
  · rintro ⟨action, member, found⟩
    cases action with
    | forward other =>
      cases found
      exact member
    | drive chunk answer => cases found
    | warn warning => cases found
  · intro member
    exact ⟨_, member, rfl⟩

/-! ## Handling an event -/

/-- What is forwarded of an event: all of it, or nothing if the pins are taken. -/
def passes (relay : Relay) (event : Event) : List Event :=
  if event.port.isJtag && relay.isReplaying then [] else [event]

theorem forwards_warnings (warnings : List Warning) : forwards (warnings.map .warn) = [] := by
  induction warnings with
  | nil => rfl
  | cons warning rest ih => exact ih

theorem forwards_handle (relay : Relay) (now : Nat) (event : Event) :
    forwards (relay.handle now event).2 = passes relay event := by
  rcases event with ⟨port, bytes⟩
  unfold handle passes
  cases port with
  | uartFromTarget =>
    cases relay.isReplaying with
    | false =>
      change Event.mk .uartFromTarget bytes :: forwards _ = _
      rw [forwards_warnings]
      rfl
    | true => rfl
  | uartFromHost => cases relay.isReplaying <;> rfl
  | jtagFromHost => cases relay.isReplaying <;> rfl
  | jtagFromTarget => cases relay.isReplaying <;> rfl

theorem not_drive_handle {relay : Relay} {now : Nat} {event : Event} {chunk : ByteArray}
    {answer : PinsAnswer} : Action.drive chunk answer ∉ (relay.handle now event).2 := by
  rcases event with ⟨port, bytes⟩
  unfold handle
  cases port <;> cases relay.isReplaying <;> simp

theorem forwards_replayChunk (replay : Replay) (now : Nat) (pins : Pins) :
    forwards (replayChunk replay now pins).actions = [] := by
  unfold replayChunk
  split
  · rfl
  · split
    · rfl
    · dsimp only
      split
      · rfl
      · split <;> rfl

theorem chunk_of_drive {replay : Replay} {now : Nat} {pins : Pins} {chunk : ByteArray}
    {answer : PinsAnswer}
    (driven : Action.drive chunk answer ∈ (replayChunk replay now pins).actions) :
    chunk = replay.chunk := by
  unfold replayChunk at driven
  split at driven
  · simp at driven
  · split at driven
    · simp only [List.mem_cons, Action.drive.injEq, reduceCtorEq, List.not_mem_nil, or_false]
        at driven
      exact driven.1
    · dsimp only at driven
      split at driven
      · exact (Action.drive.inj (List.mem_singleton.mp driven)).1
      · split at driven
        · exact (Action.drive.inj (List.mem_singleton.mp driven)).1
        · exact (Action.drive.inj (List.mem_singleton.mp driven)).1

/-! ## A step -/

theorem bytesOn_passes {port : Port} (uart : port.isJtag = false) (relay : Relay)
    (event : Event) : bytesOn port (passes relay event) = bytesOn port [event] := by
  unfold passes
  split
  · next dropped =>
    have other : event.port ≠ port := by
      intro same
      rw [same, uart] at dropped
      cases dropped
    simp [bytesOn, other]
  · rfl

namespace Turn

theorem forwards_actions (turn : Turn) :
    forwards turn.actions = turn.handled.elim [] (passes turn.before) := by
  have reactions : forwards turn.reactions = turn.handled.elim [] (passes turn.before) := by
    cases found : turn.handled with
    | none =>
      rw [(handleNext_of_idle found).2]
      rfl
    | some event =>
      rw [(handleNext_of_handled found).2]
      exact forwards_handle turn.waiting turn.now event
  cases phase : turn.middle.phase with
  | passThrough => rw [(step_of_passThrough phase).2, reactions]
  | replaying replay =>
    rw [(step_of_replaying phase).2, ← reactions, forwards, List.filterMap_append]
    change forwards turn.reactions ++ forwards (replayChunk replay turn.now turn.pins).actions = _
    rw [forwards_replayChunk, List.append_nil]

/-- JTAG traffic only passes while the pins are free. -/
theorem passThrough_of_jtag {turn : Turn} {event : Event}
    (forwarded : Action.forward event ∈ turn.actions) (jtag : event.port.isJtag = true) :
    turn.before.phase = .passThrough ∧ turn.middle.phase = .passThrough ∧
      turn.after.phase = .passThrough := by
  rw [← mem_forwards, forwards_actions] at forwarded
  cases found : turn.handled with
  | none =>
    rw [found] at forwarded
    cases forwarded
  | some first =>
    rw [found] at forwarded
    change event ∈ passes turn.before first at forwarded
    unfold passes at forwarded
    split at forwarded
    · cases forwarded
    · next free =>
      rw [List.mem_singleton] at forwarded
      subst forwarded
      have phase : turn.before.phase = .passThrough := by
        unfold isReplaying at free
        cases phase : turn.before.phase with
        | passThrough => rfl
        | replaying replay => simp [phase, jtag] at free
      have other : event.port ≠ .uartFromTarget := by
        intro same
        rw [same] at jtag
        cases jtag
      have middle : turn.middle.phase = .passThrough := by
        rw [(handleNext_of_handled found).1, handle_of_ne other]
        exact phase
      exact ⟨phase, middle, by rw [(step_of_passThrough middle).1, middle]⟩

/-- The pins are only driven by a replay. -/
theorem replaying_of_drive {turn : Turn} {chunk : ByteArray} {answer : PinsAnswer}
    (driven : Action.drive chunk answer ∈ turn.actions) :
    ∃ replay, turn.middle.phase = .replaying replay ∧ chunk = replay.chunk := by
  have reactions : Action.drive chunk answer ∉ turn.reactions := by
    cases found : turn.handled with
    | none =>
      rw [(handleNext_of_idle found).2]
      exact List.not_mem_nil
    | some event =>
      rw [(handleNext_of_handled found).2]
      exact not_drive_handle
  cases phase : turn.middle.phase with
  | passThrough =>
    rw [(step_of_passThrough phase).2] at driven
    exact absurd driven reactions
  | replaying replay =>
    rw [(step_of_replaying phase).2] at driven
    rcases List.mem_append.mp driven with early | late
    · exact absurd early reactions
    · exact ⟨replay, rfl, chunk_of_drive late⟩

end Turn

/-! ## A history -/

/-- UART octets leave the relay exactly as the events that carry them are
handled. -/
theorem bytesOn_forwards {port : Port} (uart : port.isJtag = false) (steps : List Turn) :
    bytesOn port (forwards (steps.flatMap Turn.actions)) = bytesOn port (handled steps) := by
  induction steps with
  | nil => rfl
  | cons turn rest ih =>
    rw [List.flatMap_cons, forwards, List.filterMap_append, bytesOn_append]
    change bytesOn port (forwards turn.actions) ++
      bytesOn port (forwards (rest.flatMap Turn.actions)) = _
    rw [ih, turn.forwards_actions]
    cases found : turn.handled with
    | none =>
      rw [handled_cons_none found]
      rfl
    | some event =>
      rw [handled_cons_some found]
      change bytesOn port (passes turn.before event) ++ _ = bytesOn port ([event] ++ handled rest)
      rw [bytesOn_passes uart, bytesOn_append]

/-- In every history events are handled in the order of their pushes, one for
each step.  What has been forwarded on a UART, followed by what is queued for
it, is everything that was pushed on it.  A JTAG event is forwarded whole or
dropped whole, as the relay is in pass-through or replays when the event is
handled.  So no JTAG traffic passes during a replay, and the pins are driven by
nothing else than a replay. -/
theorem forwarding_of_history (stubs : StubTable) (operations : List Operation) :
    handled (turns (new stubs) operations) ++ (final (new stubs) operations).queue =
        pushed operations ∧
      (∀ port, port.isJtag = false ->
        bytesOn port (forwards ((turns (new stubs) operations).flatMap Turn.actions)) =
            bytesOn port (handled (turns (new stubs) operations)) ∧
          bytesOn port (forwards ((turns (new stubs) operations).flatMap Turn.actions)) ++
              bytesOn port (final (new stubs) operations).queue =
            bytesOn port (pushed operations)) ∧
      ∀ turn ∈ turns (new stubs) operations,
        turn.before.queue = turn.handled.toList ++ turn.after.queue ∧
          forwards turn.actions = turn.handled.elim [] (fun event =>
            if event.port.isJtag && turn.before.isReplaying then [] else [event]) ∧
          (∀ event, Action.forward event ∈ turn.actions -> event.port.isJtag = true ->
            turn.before.phase = .passThrough ∧ turn.middle.phase = .passThrough ∧
              turn.after.phase = .passThrough) ∧
          ∀ chunk answer, Action.drive chunk answer ∈ turn.actions ->
            ∃ replay, turn.middle.phase = .replaying replay ∧ chunk = replay.chunk := by
  have order : handled (turns (new stubs) operations) ++ (final (new stubs) operations).queue =
      pushed operations := handled_append_queue (new stubs) operations
  refine ⟨order, ?_, ?_⟩
  · intro port uart
    refine ⟨bytesOn_forwards uart _, ?_⟩
    rw [bytesOn_forwards uart, ← bytesOn_append, order]
  · intro turn _
    refine ⟨?_, turn.forwards_actions, ?_, ?_⟩
    · rw [turn.queue_after]
      unfold Turn.handled
      cases turn.before.queue <;> rfl
    · intro event forwarded jtag
      exact Turn.passThrough_of_jtag forwarded jtag
    · intro chunk answer driven
      exact Turn.replaying_of_drive driven

end Relay
end FlashSlots
