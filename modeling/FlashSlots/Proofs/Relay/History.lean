import FlashSlots.Relay.Run

namespace FlashSlots
namespace Relay

/-!
# Histories of the relay

A history is a series of pushes and steps in any order.  Every step has its
time and its pins, so that nothing is assumed of the clock or of how the pins
answer.

Between the two parts of a step the relay has handled the event, and a chunk of
the replay may be due; `Turn.middle` is the relay at that point.  A replay can
only have started before it and can only end after it.
-/

/-- What can be done to a relay. -/
inductive Operation where
  | push (event : Event)
  | step (now : Nat) (pins : Pins)

/-- A step of a history, with the relay that takes it. -/
structure Turn where
  before : Relay
  now : Nat
  pins : Pins

namespace Turn

def handled (turn : Turn) : Option Event := turn.before.queue.head?

def middle (turn : Turn) : Relay := (turn.before.handleNext turn.now).relay

def after (turn : Turn) : Relay := (turn.before.step turn.now turn.pins).relay

def actions (turn : Turn) : List Action := (turn.before.step turn.now turn.pins).actions

end Turn

def perform (relay : Relay) : Operation -> Relay
  | .push event => relay.push event
  | .step now pins => (relay.step now pins).relay

/-- The relay at the end of a history. -/
def final (relay : Relay) (operations : List Operation) : Relay :=
  operations.foldl perform relay

/-- The steps of a history. -/
def turns : Relay -> List Operation -> List Turn
  | _, [] => []
  | relay, .push event :: rest => turns (relay.push event) rest
  | relay, .step now pins :: rest =>
    ⟨relay, now, pins⟩ :: turns (relay.step now pins).relay rest

def Operation.pushed? : Operation -> Option Event
  | .push event => some event
  | .step _ _ => none

/-- The events that were pushed. -/
def pushed (operations : List Operation) : List Event := operations.filterMap Operation.pushed?

/-- The events that were handled. -/
def handled (steps : List Turn) : List Event := steps.filterMap Turn.handled

theorem handled_cons_none {turn : Turn} (idle : turn.handled = none) (rest : List Turn) :
    handled (turn :: rest) = handled rest :=
  List.filterMap_cons_none idle

theorem handled_cons_some {turn : Turn} {event : Event} (found : turn.handled = some event)
    (rest : List Turn) : handled (turn :: rest) = event :: handled rest :=
  List.filterMap_cons_some found

/-- The octets of these events that belong to a port. -/
def bytesOn (port : Port) (events : List Event) : List UInt8 :=
  events.flatMap fun event => if event.port = port then event.bytes else []

theorem bytesOn_append (port : Port) (first second : List Event) :
    bytesOn port (first ++ second) = bytesOn port first ++ bytesOn port second :=
  List.flatMap_append

/-! ## The queue -/

/-- A step takes the first event off the queue. -/
theorem Turn.queue_after (turn : Turn) : turn.after.queue = turn.before.queue.tail :=
  queue_step turn.before turn.now turn.pins

/-- Events are handled in the order in which they were pushed, and none is
lost. -/
theorem handled_append_queue (relay : Relay) (operations : List Operation) :
    handled (turns relay operations) ++ (final relay operations).queue =
      relay.queue ++ pushed operations := by
  induction operations generalizing relay with
  | nil => exact (List.append_nil relay.queue).symm
  | cons operation rest ih =>
    cases operation with
    | push event =>
      refine (ih (relay.push event)).trans ?_
      exact List.append_assoc relay.queue [event] (pushed rest)
    | step now pins =>
      have behind := ih (relay.step now pins).relay
      rw [queue_step] at behind
      change handled (⟨relay, now, pins⟩ :: turns (relay.step now pins).relay rest) ++
        (final (relay.step now pins).relay rest).queue = relay.queue ++ pushed rest
      cases queue : relay.queue with
      | nil =>
        rw [queue] at behind
        have first : Turn.handled ⟨relay, now, pins⟩ = none := congrArg List.head? queue
        rw [handled_cons_none first]
        exact behind
      | cons event others =>
        rw [queue] at behind
        have first : Turn.handled ⟨relay, now, pins⟩ = some event := congrArg List.head? queue
        rw [handled_cons_some first, List.cons_append]
        exact congrArg (event :: ·) behind

/-! ## The two parts of a step -/

/-- Only the board's UART changes the relay. -/
theorem handle_of_ne {event : Event} (other : event.port ≠ .uartFromTarget) (relay : Relay)
    (now : Nat) : (relay.handle now event).1 = relay := by
  rcases event with ⟨port, bytes⟩
  unfold handle
  cases port with
  | uartFromTarget => exact absurd rfl other
  | uartFromHost => rfl
  | jtagFromHost => cases relay.isReplaying <;> rfl
  | jtagFromTarget => cases relay.isReplaying <;> rfl

namespace Turn

/-- The relay with the event off its queue. -/
def waiting (turn : Turn) : Relay := { turn.before with queue := turn.before.queue.tail }

/-- What handling the event does. -/
def reactions (turn : Turn) : List Action := (turn.before.handleNext turn.now).actions

theorem handleNext_of_handled {turn : Turn} {event : Event} (found : turn.handled = some event) :
    turn.middle = (turn.waiting.handle turn.now event).1 ∧
      turn.reactions = (turn.waiting.handle turn.now event).2 := by
  rcases turn with ⟨⟨stubs, phase, queue, scanner⟩, now, pins⟩
  cases queue with
  | nil => cases found
  | cons first rest =>
    cases found
    exact ⟨rfl, rfl⟩

theorem handleNext_of_idle {turn : Turn} (idle : turn.handled = none) :
    turn.middle = turn.before ∧ turn.reactions = [] := by
  rcases turn with ⟨⟨stubs, phase, queue, scanner⟩, now, pins⟩
  cases queue with
  | nil => exact ⟨rfl, rfl⟩
  | cons first rest => cases idle

theorem waiting_of_idle {turn : Turn} (idle : turn.handled = none) :
    turn.waiting = turn.before := by
  rcases turn with ⟨⟨stubs, phase, queue, scanner⟩, now, pins⟩
  cases queue with
  | nil => rfl
  | cons first rest => cases idle

theorem step_of_passThrough {turn : Turn} (settled : turn.middle.phase = .passThrough) :
    turn.after = turn.middle ∧ turn.actions = turn.reactions := by
  unfold after actions step
  change (turn.before.handleNext turn.now).relay.phase = _ at settled
  dsimp only
  rw [settled]
  exact ⟨rfl, rfl⟩

theorem step_of_replaying {turn : Turn} {replay : Replay}
    (busy : turn.middle.phase = .replaying replay) :
    turn.after = { turn.middle with phase := (replayChunk replay turn.now turn.pins).phase } ∧
      turn.actions = turn.reactions ++ (replayChunk replay turn.now turn.pins).actions := by
  unfold after actions step
  change (turn.before.handleNext turn.now).relay.phase = _ at busy
  dsimp only
  rw [busy]
  exact ⟨rfl, rfl⟩

end Turn

/-- The second phase continues the first: a replay may go on or end, but none
starts. -/
def Phase.Continues : Phase -> Phase -> Prop
  | _, .passThrough => True
  | .passThrough, .replaying _ => False
  | .replaying first, .replaying second =>
    second.trigger = first.trigger ∧ second.vector = first.vector ∧
      second.startedAt = first.startedAt

theorem Phase.Continues.refl (phase : Phase) : phase.Continues phase := by
  cases phase with
  | passThrough => trivial
  | replaying replay => exact ⟨rfl, rfl, rfl⟩

theorem continues_replayChunk (replay : Replay) (now : Nat) (pins : Pins) :
    (Phase.replaying replay).Continues (replayChunk replay now pins).phase := by
  unfold replayChunk
  split
  · trivial
  · split
    · trivial
    · dsimp only
      split
      · exact ⟨rfl, rfl, rfl⟩
      · split
        · trivial
        · exact ⟨rfl, rfl, rfl⟩

/-- What is left of a step behind the event only concerns the replay. -/
theorem Turn.after_eq (turn : Turn) :
    turn.after = { turn.middle with phase := turn.after.phase } := by
  cases phase : turn.middle.phase with
  | passThrough => rw [(Turn.step_of_passThrough phase).1]
  | replaying replay => rw [(Turn.step_of_replaying phase).1]

theorem Turn.continues_after (turn : Turn) : turn.middle.phase.Continues turn.after.phase := by
  cases phase : turn.middle.phase with
  | passThrough =>
    rw [(Turn.step_of_passThrough phase).1, phase]
    trivial
  | replaying replay =>
    rw [(Turn.step_of_replaying phase).1]
    exact continues_replayChunk replay turn.now turn.pins

/-! ## Reading a history from its end -/

/-- A relay with these stubs, new at first, after these steps. -/
inductive Reached (stubs : StubTable) : List Turn -> Relay -> Prop where
  | start : Reached stubs [] (new stubs)
  | push {front : List Turn} {relay : Relay} (event : Event) :
      Reached stubs front relay -> Reached stubs front (relay.push event)
  | step {front : List Turn} {turn : Turn} :
      Reached stubs front turn.before -> Reached stubs (front ++ [turn]) turn.after

/-- What has been done before a step of a history. -/
theorem Reached.before_turn {stubs : StubTable} {earlier : List Turn} {relay : Relay}
    (reached : Reached stubs earlier relay) {operations : List Operation} {front back : List Turn}
    {turn : Turn} (shape : turns relay operations = front ++ turn :: back) :
    Reached stubs (earlier ++ front) turn.before := by
  induction operations generalizing earlier relay front with
  | nil => cases front <;> cases shape
  | cons operation rest ih =>
    cases operation with
    | push event => exact ih (reached.push event) shape
    | step now pins =>
      cases front with
      | nil =>
        cases shape
        rw [List.append_nil]
        exact reached
      | cons first others =>
        rcases List.cons.inj shape with ⟨same, behind⟩
        subst same
        have next := ih (@Reached.step stubs earlier ⟨relay, now, pins⟩ reached) behind
        rw [List.append_assoc] at next
        exact next

end Relay
end FlashSlots
