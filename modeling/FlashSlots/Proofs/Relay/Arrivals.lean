import Mathlib.Data.List.Chain
import FlashSlots.Proofs.Relay.History

namespace FlashSlots
namespace Relay

/-!
# The board's UART, octet by octet

The relay does the same with an event as with its octets one after the other,
so that it does not matter how the board's UART is split into events.  An
`Arrival` is an octet with the relay at the moment when it is reached, and
`Heard` is what all the octets of a history have made of a new relay.
-/

namespace Scanner

theorem skip_cons (scanner : Scanner) (byte : UInt8) (rest : List UInt8) :
    scanner.skip (byte :: rest) = (scanner.skip [byte]).skip rest := by
  cases rest with
  | nil => rfl
  | cons next others =>
    unfold skip
    rw [List.getLast?_cons_cons]
    cases found : (next :: others).getLast? with
    | none => exact absurd (List.getLast?_eq_none_iff.mp found) (List.cons_ne_nil next others)
    | some last => rfl

end Scanner

/-! ## Octets one by one -/

/-- The relay after octets of the board's UART. -/
def feed (relay : Relay) (now : Nat) (bytes : List UInt8) : Relay :=
  (relay.handle now ⟨.uartFromTarget, bytes⟩).1

section

variable {relay : Relay} {now : Nat}

theorem feed_of_replaying {replay : Replay} (busy : relay.phase = .replaying replay)
    (bytes : List UInt8) :
    relay.feed now bytes = { relay with scanner := relay.scanner.skip bytes } := by
  unfold feed handle isReplaying
  rw [busy]

theorem feed_of_passThrough (free : relay.phase = .passThrough) (bytes : List UInt8) :
    relay.feed now bytes = (relay.scan now bytes).1 := by
  unfold feed handle isReplaying
  rw [free]

theorem feed_nil : relay.feed now [] = relay := by
  cases phase : relay.phase with
  | passThrough => exact feed_of_passThrough phase []
  | replaying replay => exact feed_of_replaying phase []

/-- A scanned octet with which no trigger ends. -/
theorem feed_of_silent (free : relay.phase = .passThrough) {byte : UInt8}
    (silent : (relay.scanner.push byte).2 = none) (rest : List UInt8) :
    relay.feed now (byte :: rest) =
      { relay with scanner := (relay.scanner.push byte).1 }.feed now rest := by
  have still : { relay with scanner := (relay.scanner.push byte).1 }.phase = .passThrough := free
  rw [feed_of_passThrough free, feed_of_passThrough still]
  rcases pushed : relay.scanner.push byte with ⟨scanner, found⟩
  rw [pushed] at silent
  cases silent
  simp only [scan, pushed]

/-- A replay starts, and the rest of the event is passed over. -/
theorem feed_of_playable (free : relay.phase = .passThrough) {byte : UInt8} {trigger : Trigger}
    (found : (relay.scanner.push byte).2 = some trigger) {vector : ByteArray}
    (playable : relay.stubs.vector trigger = .ok vector) (rest : List UInt8) :
    relay.feed now (byte :: rest) =
      { relay with
        phase := .replaying (.start trigger vector now)
        scanner := (relay.scanner.push byte).1.skip rest } := by
  rw [feed_of_passThrough free]
  rcases pushed : relay.scanner.push byte with ⟨scanner, result⟩
  rw [pushed] at found
  cases found
  simp only [scan, pushed, playable]

/-- The trigger is passed by, and the rest of the event is scanned. -/
theorem feed_of_unplayable (free : relay.phase = .passThrough) {byte : UInt8} {trigger : Trigger}
    (found : (relay.scanner.push byte).2 = some trigger) {cause : StubError}
    (unplayable : relay.stubs.vector trigger = .error cause) (rest : List UInt8) :
    relay.feed now (byte :: rest) =
      { relay with scanner := (relay.scanner.push byte).1 }.feed now rest := by
  have still : { relay with scanner := (relay.scanner.push byte).1 }.phase = .passThrough := free
  rw [feed_of_passThrough free, feed_of_passThrough still]
  rcases pushed : relay.scanner.push byte with ⟨scanner, result⟩
  rw [pushed] at found
  cases found
  simp only [scan, pushed, unplayable]

/-- It does not matter how the octets are split into events. -/
theorem feed_cons (byte : UInt8) (rest : List UInt8) :
    relay.feed now (byte :: rest) = (relay.feed now [byte]).feed now rest := by
  cases phase : relay.phase with
  | replaying replay =>
    have busy : { relay with scanner := relay.scanner.skip [byte] }.phase = .replaying replay :=
      phase
    rw [feed_of_replaying phase, feed_of_replaying phase, feed_of_replaying busy,
      Scanner.skip_cons]
  | passThrough =>
    cases found : (relay.scanner.push byte).2 with
    | none => rw [feed_of_silent phase found, feed_of_silent phase found, feed_nil]
    | some trigger =>
      cases stub : relay.stubs.vector trigger with
      | error cause =>
        rw [feed_of_unplayable phase found stub, feed_of_unplayable phase found stub, feed_nil]
      | ok vector =>
        rw [feed_of_playable phase found stub, feed_of_playable phase found stub,
          feed_of_replaying rfl]
        rfl

theorem feed_append (first second : List UInt8) :
    relay.feed now (first ++ second) = (relay.feed now first).feed now second := by
  induction first generalizing relay with
  | nil => rw [List.nil_append, feed_nil]
  | cons byte rest ih => rw [List.cons_append, feed_cons, ih, ← feed_cons]

end

/-- An octet of the board's UART, with the relay at the moment when it is
reached. -/
structure Arrival where
  before : Relay
  now : Nat
  byte : UInt8

namespace Arrival

def after (arrival : Arrival) : Relay := arrival.before.feed arrival.now [arrival.byte]

/-- No replay is under way, so that the octet is scanned. -/
def Scanned (arrival : Arrival) : Prop := arrival.before.phase = .passThrough

/-- The octet makes the relay try this trigger. -/
def Tries (arrival : Arrival) (trigger : Trigger) : Prop :=
  arrival.Scanned ∧ (arrival.before.scanner.push arrival.byte).2 = some trigger

variable {arrival : Arrival}

theorem phase_after_of_replaying {replay : Replay}
    (busy : arrival.before.phase = .replaying replay) :
    arrival.after.phase = .replaying replay := by
  rw [after, feed_of_replaying busy]
  exact busy

theorem scanner_after_of_replaying {replay : Replay}
    (busy : arrival.before.phase = .replaying replay) :
    arrival.after.scanner = arrival.before.scanner.skip [arrival.byte] := by
  rw [after, feed_of_replaying busy]

/-- A try starts a replay exactly if there is a stub for the trigger. -/
theorem phase_after_of_tries {trigger : Trigger} (tries : arrival.Tries trigger) :
    arrival.after.phase =
      match arrival.before.stubs.vector trigger with
      | .ok vector => .replaying (.start trigger vector arrival.now)
      | .error _ => .passThrough := by
  rcases tries with ⟨free, found⟩
  cases stub : arrival.before.stubs.vector trigger with
  | ok vector => rw [after, feed_of_playable free found stub]
  | error cause =>
    rw [after, feed_of_unplayable free found stub, feed_nil]
    exact free

theorem phase_after_of_silent (silent : ∀ trigger, ¬ arrival.Tries trigger) :
    arrival.after.phase = arrival.before.phase := by
  cases phase : arrival.before.phase with
  | replaying replay => exact phase_after_of_replaying phase
  | passThrough =>
    cases found : (arrival.before.scanner.push arrival.byte).2 with
    | none =>
      rw [after, feed_of_silent phase found, feed_nil]
      exact phase
    | some trigger => exact absurd ⟨phase, found⟩ (silent trigger)

/-- A scanned octet is pushed to the scanner, and only the phase may change
besides. -/
theorem after_of_scanned (scanned : arrival.Scanned) :
    arrival.after = { arrival.before with
      phase := arrival.after.phase
      scanner := (arrival.before.scanner.push arrival.byte).1 } := by
  cases found : (arrival.before.scanner.push arrival.byte).2 with
  | none => rw [after, feed_of_silent scanned found, feed_nil]
  | some trigger =>
    cases stub : arrival.before.stubs.vector trigger with
    | ok vector =>
      rw [after, feed_of_playable scanned found stub]
      rfl
    | error cause => rw [after, feed_of_unplayable scanned found stub, feed_nil]

theorem stubs_after (arrival : Arrival) : arrival.after.stubs = arrival.before.stubs := by
  cases phase : arrival.before.phase with
  | replaying replay => rw [after, feed_of_replaying phase]
  | passThrough => rw [after_of_scanned phase]

end Arrival

/-- Octets that arrive one after the other. -/
def arrivals (now : Nat) : Relay -> List UInt8 -> List Arrival
  | _, [] => []
  | relay, byte :: rest => ⟨relay, now, byte⟩ :: arrivals now (relay.feed now [byte]) rest

theorem arrivals_append (now : Nat) (relay : Relay) (first second : List UInt8) :
    arrivals now relay (first ++ second) =
      arrivals now relay first ++ arrivals now (relay.feed now first) second := by
  induction first generalizing relay with
  | nil => rw [List.nil_append, feed_nil, arrivals, List.nil_append]
  | cons byte rest ih => rw [List.cons_append, arrivals, arrivals, ih, ← feed_cons, List.cons_append]

theorem map_byte_arrivals (now : Nat) (relay : Relay) (bytes : List UInt8) :
    (arrivals now relay bytes).map Arrival.byte = bytes := by
  induction bytes generalizing relay with
  | nil => rfl
  | cons byte rest ih => exact congrArg (byte :: ·) (ih (relay.feed now [byte]))

/-- Every octet is reached with what the one before it has left. -/
theorem isChain_arrivals (now : Nat) (relay : Relay) (bytes : List UInt8) :
    (arrivals now relay bytes).IsChain fun first second => second.before = first.after := by
  induction bytes generalizing relay with
  | nil => exact .nil
  | cons byte rest ih =>
    cases rest with
    | nil => exact .singleton _
    | cons next others => exact .cons_cons rfl (ih (relay.feed now [byte]))

namespace Turn

/-- The octets of the board's UART that are handled. -/
def bytes (turn : Turn) : List UInt8 := bytesOn .uartFromTarget turn.handled.toList

def arrivals (turn : Turn) : List Arrival := Relay.arrivals turn.now turn.waiting turn.bytes

/-- Handling an event comes to feeding its octets of the board's UART, if it
has any. -/
theorem middle_eq_feed (turn : Turn) : turn.middle = turn.waiting.feed turn.now turn.bytes := by
  unfold bytes
  cases found : turn.handled with
  | none =>
    rw [(handleNext_of_idle found).1, waiting_of_idle found]
    exact feed_nil.symm
  | some event =>
    rcases event with ⟨port, bytes⟩
    rw [(handleNext_of_handled found).1]
    by_cases uart : port = .uartFromTarget
    · subst uart
      have octets : bytesOn .uartFromTarget [⟨.uartFromTarget, bytes⟩] = bytes :=
        List.append_nil bytes
      rw [Option.toList_some, octets]
      rfl
    · have none : bytesOn .uartFromTarget [⟨port, bytes⟩] = [] := by
        simp [bytesOn, uart]
      rw [handle_of_ne uart, Option.toList_some, none, feed_nil]

end Turn

theorem map_byte_turns (steps : List Turn) :
    (steps.flatMap Turn.arrivals).map Arrival.byte = bytesOn .uartFromTarget (handled steps) := by
  induction steps with
  | nil => rfl
  | cons turn rest ih =>
    rw [List.flatMap_cons, List.map_append, ih, Turn.arrivals, map_byte_arrivals, Turn.bytes,
      ← bytesOn_append]
    cases found : turn.handled with
    | none => rw [handled_cons_none found, Option.toList_none, List.nil_append]
    | some event => rw [handled_cons_some found, Option.toList_some, List.singleton_append]

/-! ## Everything that has arrived -/

/-- What happens to the relay while no octet of the board's UART arrives. -/
structure Waits (first second : Relay) : Prop where
  stubs : second.stubs = first.stubs
  scanner : second.scanner = first.scanner
  phase : first.phase.Continues second.phase

/-- A relay with these stubs, new at first, to which these octets have arrived. -/
inductive Heard (stubs : StubTable) : List Arrival -> Relay -> Prop where
  | start : Heard stubs [] (new stubs)
  | wait {front : List Arrival} {relay next : Relay} :
      Heard stubs front relay -> Waits relay next -> Heard stubs front next
  | arrive {front : List Arrival} {arrival : Arrival} :
      Heard stubs front arrival.before -> Heard stubs (front ++ [arrival]) arrival.after

theorem waits_push (relay : Relay) (event : Event) : Waits relay (relay.push event) :=
  ⟨rfl, rfl, Phase.Continues.refl relay.phase⟩

theorem waits_waiting (turn : Turn) : Waits turn.before turn.waiting :=
  ⟨rfl, rfl, Phase.Continues.refl turn.before.phase⟩

theorem waits_after (turn : Turn) : Waits turn.middle turn.after where
  stubs := by rw [turn.after_eq]
  scanner := by rw [turn.after_eq]
  phase := turn.continues_after

namespace Heard

variable {stubs : StubTable} {front : List Arrival} {relay : Relay}

theorem feed (heard : Heard stubs front relay) (now : Nat) (bytes : List UInt8) :
    Heard stubs (front ++ arrivals now relay bytes) (relay.feed now bytes) := by
  induction bytes generalizing front relay with
  | nil =>
    rw [arrivals, List.append_nil, feed_nil]
    exact heard
  | cons byte rest ih =>
    have first : Heard stubs (front ++ [⟨relay, now, byte⟩]) (relay.feed now [byte]) :=
      @Heard.arrive stubs front ⟨relay, now, byte⟩ heard
    have others := ih first
    rw [List.append_assoc] at others
    rw [feed_cons]
    exact others

theorem turn {turn : Turn} (heard : Heard stubs front turn.before) :
    Heard stubs (front ++ turn.arrivals) turn.after := by
  have waiting : Heard stubs front turn.waiting := heard.wait (waits_waiting turn)
  refine .wait ?_ (waits_after turn)
  rw [turn.middle_eq_feed]
  exact waiting.feed turn.now turn.bytes

theorem history {relay : Relay} (heard : Heard stubs front relay) (operations : List Operation) :
    Heard stubs (front ++ (turns relay operations).flatMap Turn.arrivals)
      (final relay operations) := by
  induction operations generalizing front relay with
  | nil =>
    rw [turns, List.flatMap_nil, List.append_nil]
    exact heard
  | cons operation rest ih =>
    cases operation with
    | push event => exact ih (heard.wait (waits_push relay event))
    | step now pins =>
      have first : Heard stubs (front ++ Turn.arrivals ⟨relay, now, pins⟩)
          (relay.step now pins).relay := @Heard.turn stubs front ⟨relay, now, pins⟩ heard
      have others := ih first
      rw [List.append_assoc] at others
      exact others

theorem before_turn (heard : Heard stubs front relay) (operations : List Operation) :
    ∀ turn ∈ turns relay operations, ∃ earlier, Heard stubs earlier turn.before := by
  induction operations generalizing front relay with
  | nil =>
    intro turn member
    cases member
  | cons operation rest ih =>
    cases operation with
    | push event => exact ih (heard.wait (waits_push relay event))
    | step now pins =>
      intro turn member
      rcases List.mem_cons.mp member with here | later
      · exact ⟨front, here ▸ heard⟩
      · exact ih (@Heard.turn stubs front ⟨relay, now, pins⟩ heard) turn later

theorem stubs_eq (heard : Heard stubs front relay) : relay.stubs = stubs := by
  induction heard with
  | start => rfl
  | wait _ waits ih => exact waits.stubs.trans ih
  | arrive _ ih => exact (Arrival.stubs_after _).trans ih

/-- What had arrived when one of the octets was reached. -/
theorem split {arrival : Arrival} {back : List Arrival}
    (heard : Heard stubs (front ++ arrival :: back) relay) : Heard stubs front arrival.before := by
  generalize shape : front ++ arrival :: back = all at heard
  induction heard generalizing back with
  | start => cases front <;> cases shape
  | wait _ _ ih => exact ih shape
  | @arrive earlier last heard ih =>
    rcases List.eq_nil_or_concat back with empty | ⟨others, final, same⟩
    · subst empty
      rcases List.append_inj' shape rfl with ⟨sameFront, sameLast⟩
      cases sameFront
      cases sameLast
      exact heard
    · subst same
      rw [List.concat_eq_append, ← List.cons_append, ← List.append_assoc] at shape
      exact ih (List.append_inj' shape rfl).1

end Heard

/-- The octets of the board's UART that are handled in a history. -/
def received (stubs : StubTable) (operations : List Operation) : List Arrival :=
  (turns (new stubs) operations).flatMap Turn.arrivals

theorem heard_received (stubs : StubTable) (operations : List Operation) :
    Heard stubs (received stubs operations) (final (new stubs) operations) :=
  Heard.start.history operations

end Relay
end FlashSlots
