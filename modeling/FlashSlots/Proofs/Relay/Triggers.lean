import FlashSlots.Compression.Stored
import FlashSlots.Proofs.Relay.Arrivals
import Mathlib.Data.List.DropRight

namespace FlashSlots

/-!
# When a replay starts

The scanner keeps at most twelve octets of a line and a flag.  Here it is
compared with a reader of whole lines: a newline makes the relay try a trigger
exactly if the whole line behind the last newline was scanned and is the token
of that trigger.  The invariant is `Tracks`: the scanner holds the octets of
the line, or it has the flag because the line is too long or was not scanned as
a whole.
-/

namespace Trigger

theorem length_tokenBytes (trigger : Trigger) : trigger.tokenBytes.length = maxTokenLength := by
  have every : ∀ trigger ∈ all, trigger.tokenBytes.length = maxTokenLength := by
    decide +kernel
  exact every trigger (mem_all trigger)

theorem tokenBytes_inj {first second : Trigger} (same : first.tokenBytes = second.tokenBytes) :
    first = second := by
  have every : ∀ first ∈ all, ∀ second ∈ all,
      first.tokenBytes = second.tokenBytes -> first = second := by
    decide +kernel
  exact every first (mem_all first) second (mem_all second) same

/-- Only the token of a trigger is read as that trigger. -/
theorem parse?_eq_some_iff {line : List UInt8} {trigger : Trigger} :
    parse? line = some trigger ↔ line = trigger.tokenBytes := by
  unfold parse?
  constructor
  · intro found
    have matched := List.find?_some found
    exact (eq_of_beq matched).symm
  · intro same
    cases found : all.find? fun other => other.tokenBytes == line with
    | none =>
      have missed := List.find?_eq_none.mp found trigger (mem_all trigger)
      exact absurd (beq_iff_eq.mpr same.symm) missed
    | some other =>
      have matched := List.find?_some found
      rw [tokenBytes_inj ((eq_of_beq matched).trans same)]

end Trigger

namespace Relay
namespace Scanner

theorem length_stripFront (line : List UInt8) : line.length ≤ (stripFront line).length + 1 := by
  unfold stripFront
  split
  · exact Nat.zero_le _
  · split
    · exact Nat.le_refl _
    · exact Nat.le_succ _

theorem length_stripBack (line : List UInt8) : line.length ≤ (stripBack line).length + 1 := by
  unfold stripBack
  split
  · rw [List.length_dropLast]
    omega
  · exact Nat.le_succ _

/-- A line of which the scanner cannot keep everything is no token. -/
theorem strip_ne_tokenBytes {line : List UInt8} (long : capacity < line.length)
    (trigger : Trigger) : stripBack (stripFront line) ≠ trigger.tokenBytes := by
  intro same
  have front := length_stripFront line
  have back := length_stripBack (stripFront line)
  rw [same, trigger.length_tokenBytes] at back
  unfold capacity at long
  omega

theorem push_newline (scanner : Scanner) : scanner.push newline = (start, scanner.trigger?) :=
  if_pos rfl

theorem push_of_ne (scanner : Scanner) {byte : UInt8} (inner : byte ≠ newline) :
    scanner.push byte =
      (if scanner.line.length < capacity then { scanner with line := scanner.line ++ [byte] }
        else { scanner with overflowed := true }, none) := by
  unfold push
  rw [if_neg inner]
  split <;> rfl

end Scanner

/-! ## Lines -/

/-- What has arrived since the last newline. -/
def lineOf (front : List Arrival) : List Arrival :=
  front.rtakeWhile fun arrival => arrival.byte != newline

theorem lineOf_append_newline (front : List Arrival) {arrival : Arrival}
    (ends : arrival.byte = newline) : lineOf (front ++ [arrival]) = [] := by
  apply List.rtakeWhile_concat_neg
  simp [ends]

theorem lineOf_append_inner (front : List Arrival) {arrival : Arrival}
    (inner : arrival.byte ≠ newline) :
    lineOf (front ++ [arrival]) = lineOf front ++ [arrival] := by
  apply List.rtakeWhile_concat_pos
  simp [inner]

/-- The line was scanned as a whole, and the scanner can keep it. -/
def Whole (line : List Arrival) : Prop :=
  (∀ arrival ∈ line, arrival.Scanned) ∧ line.length ≤ Scanner.capacity

/-- The scanner holds the line, or knows that it does not. -/
structure Tracks (line : List Arrival) (scanner : Scanner) : Prop where
  whole : Whole line -> scanner = ⟨line.map Arrival.byte, false⟩
  cut : ¬ Whole line -> scanner.overflowed = true

theorem tracks_nil : Tracks [] .start where
  whole := fun _ => rfl
  cut := by
    intro cut
    refine absurd ⟨?_, Nat.zero_le _⟩ cut
    intro arrival member
    cases member

theorem tracks_unscanned {line : List Arrival} {arrival : Arrival}
    (busy : ¬ arrival.Scanned) (scanner : Scanner) (inner : arrival.byte ≠ newline) :
    Tracks (line ++ [arrival]) (scanner.skip [arrival.byte]) where
  whole := by
    intro whole
    exact absurd (whole.1 arrival List.mem_concat_self) busy
  cut := by
    intro _
    exact bne_iff_ne.mpr inner

/-- A scanned octet inside a line keeps track of it. -/
theorem Tracks.push {line : List Arrival} {scanner : Scanner} (tracks : Tracks line scanner)
    {arrival : Arrival} (scanned : arrival.Scanned) (inner : arrival.byte ≠ newline) :
    Tracks (line ++ [arrival]) (scanner.push arrival.byte).1 := by
  have length : (line ++ [arrival]).length = line.length + 1 := List.length_append
  rw [Scanner.push_of_ne scanner inner]
  by_cases whole : Whole line
  · have kept := tracks.whole whole
    subst kept
    dsimp only
    rw [List.length_map]
    split
    · next room =>
      have longer : Whole (line ++ [arrival]) := by
        refine ⟨?_, by rw [length]; exact room⟩
        exact List.forall_mem_append.mpr ⟨whole.1, List.forall_mem_singleton.mpr scanned⟩
      refine ⟨?_, fun cut => absurd longer cut⟩
      intro _
      rw [List.map_append]
      rfl
    · next full =>
      -- The line has just become too long, and the flag says so.
      refine ⟨?_, fun _ => rfl⟩
      intro longer
      have bounded := longer.2
      rw [length] at bounded
      exact absurd bounded full
  · -- A line that is cut stays cut.
    have flagged := tracks.cut whole
    have shorter : ¬ Whole (line ++ [arrival]) := by
      intro longer
      refine whole ⟨(List.forall_mem_append.mp longer.1).1, ?_⟩
      have bounded := longer.2
      omega
    refine ⟨fun longer => absurd longer shorter, ?_⟩
    intro _
    dsimp only
    split
    · exact flagged
    · rfl

/-- At every moment the scanner tracks the line that is being received. -/
theorem Heard.tracks {stubs : StubTable} {front : List Arrival} {relay : Relay}
    (heard : Heard stubs front relay) : Tracks (lineOf front) relay.scanner := by
  induction heard with
  | start => exact tracks_nil
  | wait _ waits ih =>
    rw [waits.scanner]
    exact ih
  | @arrive front arrival _ ih =>
    cases phase : arrival.before.phase with
    | passThrough =>
      rw [Arrival.after_of_scanned phase]
      dsimp only
      by_cases ends : arrival.byte = newline
      · rw [lineOf_append_newline front ends, ends, Scanner.push_newline]
        exact tracks_nil
      · rw [lineOf_append_inner front ends]
        exact ih.push phase ends
    | replaying replay =>
      rw [Arrival.scanner_after_of_replaying phase]
      by_cases ends : arrival.byte = newline
      · rw [lineOf_append_newline front ends, ends]
        exact tracks_nil
      · rw [lineOf_append_inner front ends]
        refine tracks_unscanned ?_ arrival.before.scanner ends
        intro scanned
        cases phase.symm.trans scanned

/-- With this octet a line ends that was scanned as a whole and is the token of
the trigger, but for a carriage return on either side. -/
def Completes (line : List Arrival) (arrival : Arrival) (trigger : Trigger) : Prop :=
  arrival.byte = newline ∧ (∀ other ∈ line ++ [arrival], other.Scanned) ∧
    Scanner.stripBack (Scanner.stripFront (line.map Arrival.byte)) = trigger.tokenBytes

theorem tries_iff_completes {line : List Arrival} {arrival : Arrival}
    (tracks : Tracks line arrival.before.scanner) {trigger : Trigger} :
    arrival.Tries trigger ↔ Completes line arrival trigger := by
  by_cases ends : arrival.byte = newline
  · unfold Arrival.Tries Completes
    rw [ends, Scanner.push_newline]
    by_cases whole : Whole line
    · rw [tracks.whole whole]
      change arrival.Scanned ∧ Trigger.parse? _ = some trigger ↔ _
      rw [Trigger.parse?_eq_some_iff]
      constructor
      · rintro ⟨scanned, token⟩
        refine ⟨rfl, ?_, token⟩
        exact List.forall_mem_append.mpr ⟨whole.1, List.forall_mem_singleton.mpr scanned⟩
      · rintro ⟨_, scanned, token⟩
        exact ⟨scanned arrival List.mem_concat_self, token⟩
    · have silent : arrival.before.scanner.trigger? = none := if_pos (tracks.cut whole)
      rw [silent]
      constructor
      · rintro ⟨_, impossible⟩
        cases impossible
      · rintro ⟨_, scanned, token⟩
        exfalso
        refine whole ⟨(List.forall_mem_append.mp scanned).1, ?_⟩
        apply Nat.le_of_not_lt
        intro long
        rw [← List.length_map Arrival.byte] at long
        exact Scanner.strip_ne_tokenBytes long trigger token
  · constructor
    · rintro ⟨_, found⟩
      rw [Scanner.push_of_ne _ ends] at found
      cases found
    · rintro ⟨newlined, _⟩
      exact absurd newlined ends

/-! ## Starting a replay -/

/-- One of these octets makes the relay try a trigger that has a stub, and this
is the replay of that stub. -/
def Starts (stubs : StubTable) (now : Nat) (octets : List Arrival) (replay : Replay) : Prop :=
  ∃ arrival ∈ octets, ∃ trigger vector, arrival.Tries trigger ∧
    stubs.vector trigger = .ok vector ∧ replay = .start trigger vector now

section

variable {stubs : StubTable} {now : Nat} {replay : Replay}

theorem not_starts_nil : ¬ Starts stubs now [] replay := by
  rintro ⟨arrival, member, _⟩
  cases member

theorem starts_cons {arrival : Arrival} {rest : List Arrival} :
    Starts stubs now (arrival :: rest) replay ↔
      Starts stubs now [arrival] replay ∨ Starts stubs now rest replay := by
  unfold Starts
  simp only [List.mem_cons, List.not_mem_nil, or_false, exists_eq_or_imp, exists_eq_left]

theorem not_starts_of_unscanned {octets : List Arrival}
    (unscanned : ∀ arrival ∈ octets, ¬ arrival.Scanned) : ¬ Starts stubs now octets replay := by
  rintro ⟨arrival, member, trigger, vector, tries, _⟩
  exact unscanned arrival member tries.1

end

theorem Arrival.phase_after_iff (arrival : Arrival) (scanned : arrival.Scanned)
    (replay : Replay) :
    arrival.after.phase = .replaying replay ↔
      Starts arrival.before.stubs arrival.now [arrival] replay := by
  constructor
  · intro started
    by_cases tried : ∃ trigger, arrival.Tries trigger
    · rcases tried with ⟨trigger, tries⟩
      rw [phase_after_of_tries tries] at started
      split at started
      · next vector playable =>
        cases started
        exact ⟨arrival, List.mem_cons_self, trigger, vector, tries, playable, rfl⟩
      · cases started
    · rw [phase_after_of_silent (not_exists.mp tried)] at started
      cases scanned.symm.trans started
  · rintro ⟨other, member, trigger, vector, tries, playable, same⟩
    rw [List.mem_singleton.mp member] at tries
    rw [phase_after_of_tries tries, playable, same]

/-- During a replay nothing is scanned. -/
theorem not_scanned_of_replaying {relay : Relay} {replay : Replay}
    (busy : relay.phase = .replaying replay) (now : Nat) (bytes : List UInt8) :
    ∀ arrival ∈ arrivals now relay bytes, ¬ arrival.Scanned := by
  induction bytes generalizing relay with
  | nil =>
    intro arrival member
    cases member
  | cons byte rest ih =>
    intro arrival member
    rcases List.mem_cons.mp member with first | later
    · intro scanned
      rw [first] at scanned
      cases busy.symm.trans scanned
    · exact ih (@Arrival.phase_after_of_replaying ⟨relay, now, byte⟩ replay busy) arrival later

theorem phase_feed_iff {relay : Relay} (free : relay.phase = .passThrough) (now : Nat)
    (bytes : List UInt8) (replay : Replay) :
    (relay.feed now bytes).phase = .replaying replay ↔
      Starts relay.stubs now (arrivals now relay bytes) replay := by
  induction bytes generalizing relay with
  | nil =>
    rw [feed_nil, free]
    exact iff_of_false (by simp) not_starts_nil
  | cons byte rest ih =>
    have first : (relay.feed now [byte]).phase = .replaying replay ↔
        Starts relay.stubs now [⟨relay, now, byte⟩] replay :=
      Arrival.phase_after_iff ⟨relay, now, byte⟩ free replay
    have stubs : (relay.feed now [byte]).stubs = relay.stubs :=
      Arrival.stubs_after ⟨relay, now, byte⟩
    rw [feed_cons, arrivals, starts_cons, ← first]
    cases phase : (relay.feed now [byte]).phase with
    | passThrough =>
      -- The first octet starts nothing, so that the next one is scanned.
      rw [ih phase, stubs]
      exact (or_iff_right (by simp)).symm
    | replaying started =>
      -- From here on nothing is scanned, and the replay stays what it is.
      rw [feed_of_replaying phase, phase]
      exact (or_iff_left (not_starts_of_unscanned
        (not_scanned_of_replaying phase now rest))).symm

namespace Turn

variable {turn : Turn}

/-- Without a replay, handling an event starts one exactly if an octet of the
event makes the relay try a trigger that has a stub. -/
theorem starts_iff (free : turn.before.phase = .passThrough) (replay : Replay) :
    turn.middle.phase = .replaying replay ↔
      Starts turn.before.stubs turn.now turn.arrivals replay := by
  have waiting : turn.waiting.phase = .passThrough := free
  rw [turn.middle_eq_feed]
  exact phase_feed_iff waiting turn.now turn.bytes replay

theorem middle_of_replaying {replay : Replay} (busy : turn.before.phase = .replaying replay) :
    turn.middle.phase = .replaying replay := by
  have waiting : turn.waiting.phase = .replaying replay := busy
  rw [turn.middle_eq_feed, feed_of_replaying waiting]
  exact busy

end Turn

/-- In every history an octet makes the relay try a trigger exactly if it ends
a line that was scanned as a whole and is the token of the trigger.  The try
starts a replay if there is a stub for the trigger; if not, the rest of the
event is scanned on.  Nothing else starts a replay, and none is replaced. -/
theorem replay_starts_at_tokens (stubs : StubTable) (operations : List Operation) :
    (received stubs operations).map Arrival.byte =
        bytesOn .uartFromTarget (handled (turns (new stubs) operations)) ∧
      (∀ front arrival back, received stubs operations = front ++ arrival :: back ->
        (∀ trigger, arrival.Tries trigger ↔ Completes (lineOf front) arrival trigger) ∧
        (∀ trigger, arrival.Tries trigger ->
          (∀ vector, stubs.vector trigger = .ok vector ->
            arrival.after.phase = .replaying (.start trigger vector arrival.now)) ∧
          ∀ cause, stubs.vector trigger = .error cause -> arrival.after.phase = .passThrough) ∧
        ((∀ trigger, ¬ arrival.Tries trigger) ->
          arrival.after.phase = arrival.before.phase)) ∧
      ∀ turn ∈ turns (new stubs) operations,
        (turn.arrivals.IsChain fun first second => second.before = first.after) ∧
        (turn.before.phase = .passThrough -> ∀ replay,
          turn.middle.phase = .replaying replay ↔ Starts stubs turn.now turn.arrivals replay) ∧
        (∀ replay, turn.before.phase = .replaying replay ->
          turn.middle.phase = .replaying replay) ∧
        turn.middle.phase.Continues turn.after.phase := by
  refine ⟨map_byte_turns _, ?_, ?_⟩
  · intro front arrival back shape
    have whole := heard_received stubs operations
    rw [shape] at whole
    have heard := whole.split
    refine ⟨fun trigger => tries_iff_completes heard.tracks, ?_, Arrival.phase_after_of_silent⟩
    intro trigger tries
    have phase := Arrival.phase_after_of_tries tries
    rw [heard.stubs_eq] at phase
    constructor
    · intro vector playable
      rw [phase, playable]
    · intro cause unplayable
      rw [phase, unplayable]
  · intro turn member
    rcases Heard.start.before_turn operations turn member with ⟨earlier, heard⟩
    refine ⟨isChain_arrivals turn.now turn.waiting turn.bytes, ?_,
      fun _ => Turn.middle_of_replaying, turn.continues_after⟩
    intro free replay
    rw [← heard.stubs_eq]
    exact Turn.starts_iff free replay

/-- A token may be split over two events and may have a carriage return. -/
example :
    (final (new (StubTable.empty.insert .bootloader (Compression.Zlib.stored ⟨#[1, 2, 3]⟩)))
      [.push ⟨.uartFromTarget, "BOOT".toUTF8.toList⟩,
        .push ⟨.uartFromTarget, "LOADER\r\n".toUTF8.toList⟩,
        .step 5 fun _ => .ok 2, .step 7 fun _ => .ok 2]).phase =
      .replaying ⟨.bootloader, ⟨#[1, 2, 3]⟩, 2, 7, by decide⟩ := by
  decide +kernel

end Relay
end FlashSlots
