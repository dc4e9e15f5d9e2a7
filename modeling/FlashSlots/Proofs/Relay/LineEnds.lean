import FlashSlots.Compression.Stored
import FlashSlots.Proofs.Relay.Triggers

namespace FlashSlots
namespace Relay

/-!
# Carriage returns around a newline

A line may end with a carriage return, and one may stand in front of it, so
that a board may end its lines with a newline alone, with a carriage return in
front of the newline or with one behind it.  Here a history is compared with
the same history under other line ends.

A carriage return in front of the newline changes nothing.  One behind it
belongs to the line that comes next, and that line counts only if all of it is
scanned.  If a replay is under way behind the newline, because the newline has
started it or was itself passed over, then the carriage return is passed over,
and the next line is lost.  `Abreast` is what the two histories have in common
at corresponding octets.
-/

def carriage (present : Bool) : List UInt8 := if present then [carriageReturn] else []

/-- The sides of a newline on which a carriage return stands. -/
structure LineEnd where
  before : Bool
  behind : Bool

namespace LineEnd

/-- A carriage return and a newline. -/
def returned : LineEnd := ⟨true, false⟩

/-- A newline and a carriage return. -/
def trailed : LineEnd := ⟨false, true⟩

variable (ending : LineEnd)

/-- What stands for an octet under these line ends. -/
def spell (byte : UInt8) : List UInt8 :=
  if byte = newline then carriage ending.before ++ newline :: carriage ending.behind else [byte]

def rewriteEvent (event : Event) : Event :=
  if event.port = .uartFromTarget then { event with bytes := event.bytes.flatMap ending.spell }
  else event

/-- The operation, with these line ends on the board's UART. -/
def rewrite : Operation -> Operation
  | .push event => .push (ending.rewriteEvent event)
  | .step now pins => .step now pins

end LineEnd

/-! ## The replays of a history -/

/-- The trigger of the replay that has started in between. -/
def Phase.started? : Phase -> Phase -> Option Trigger
  | .passThrough, .replaying replay => some replay.trigger
  | _, _ => none

/-- The trigger whose replay the octet starts. -/
def Arrival.started? (arrival : Arrival) : Option Trigger :=
  arrival.before.phase.started? arrival.after.phase

/-- The trigger whose replay starts in the step. -/
def Turn.started? (turn : Turn) : Option Trigger := turn.before.phase.started? turn.middle.phase

/-- What each octet starts, not counting carriage returns. -/
def startsOf (octets : List Arrival) : List (Option Trigger) :=
  (octets.filter fun arrival => arrival.byte != carriageReturn).map Arrival.started?

/-- In both histories the same steps start replays for the same triggers, and
they do so with the same octets, not counting carriage returns. -/
structure SameReplays (stubs : StubTable) (first second : List Operation) : Prop where
  steps : (turns (new stubs) second).map Turn.started? = (turns (new stubs) first).map Turn.started?
  octets : (turns (new stubs) second).map (fun turn => startsOf turn.arrivals) =
    (turns (new stubs) first).map fun turn => startsOf turn.arrivals

/-- The newline in front of the line that is being received. -/
def lineStart? (front : List Arrival) : Option Arrival :=
  (front.rdropWhile fun arrival => arrival.byte != newline).getLast?

/-- A newline that the line starts behind leaves no replay under way. -/
def StartsQuietly (front : List Arrival) : Prop :=
  ∀ arrival ∈ lineStart? front, arrival.after.phase = .passThrough

/-- Replays only start in lines that start quietly. -/
def Quiet (front : List Arrival) : List Arrival -> Prop
  | [] => True
  | arrival :: rest =>
    (arrival.started? ≠ none -> StartsQuietly front) ∧ Quiet (front ++ [arrival]) rest

theorem quiet_append (front first second : List Arrival) :
    Quiet front (first ++ second) ↔ Quiet front first ∧ Quiet (front ++ first) second := by
  induction first generalizing front with
  | nil => simp [Quiet]
  | cons arrival rest ih =>
    rw [List.cons_append, Quiet, Quiet, ih, List.append_assoc, List.singleton_append, and_assoc]

/-! ## Octets that start nothing -/

theorem not_tries_of_inner {arrival : Arrival} (inner : arrival.byte ≠ newline)
    (trigger : Trigger) : ¬ arrival.Tries trigger := by
  rintro ⟨_, found⟩
  rw [Scanner.push_of_ne _ inner] at found
  cases found

theorem phase_after_of_inner {arrival : Arrival} (inner : arrival.byte ≠ newline) :
    arrival.after.phase = arrival.before.phase :=
  Arrival.phase_after_of_silent (not_tries_of_inner inner)

theorem Phase.started?_self (phase : Phase) : phase.started? phase = none := by
  cases phase <;> rfl

theorem started?_of_inner {arrival : Arrival} (inner : arrival.byte ≠ newline) :
    arrival.started? = none := by
  rw [Arrival.started?, phase_after_of_inner inner, Phase.started?_self]

theorem startsOf_append (first second : List Arrival) :
    startsOf (first ++ second) = startsOf first ++ startsOf second := by
  rw [startsOf, List.filter_append, List.map_append]
  rfl

theorem startsOf_cons (arrival : Arrival) (rest : List Arrival) :
    startsOf (arrival :: rest) = startsOf [arrival] ++ startsOf rest :=
  startsOf_append [arrival] rest

theorem startsOf_singleton {arrival : Arrival} (counted : arrival.byte ≠ carriageReturn) :
    startsOf [arrival] = [arrival.started?] := by
  simp [startsOf, counted]

theorem findSome?_startsOf_singleton (arrival : Arrival) :
    (startsOf [arrival]).findSome? id = arrival.started? := by
  by_cases returned : arrival.byte = carriageReturn
  · have inner : arrival.byte ≠ newline := by
      rw [returned]
      decide
    rw [started?_of_inner inner]
    simp [startsOf, returned]
  · rw [startsOf_singleton returned]
    simp

/-- Of a series of octets the first one that starts a replay counts. -/
theorem started?_feed (relay : Relay) (now : Nat) (bytes : List UInt8) :
    relay.phase.started? (relay.feed now bytes).phase =
      (startsOf (arrivals now relay bytes)).findSome? id := by
  induction bytes generalizing relay with
  | nil =>
    rw [feed_nil, Phase.started?_self]
    rfl
  | cons byte rest ih =>
    rw [feed_cons, arrivals, startsOf_cons, List.findSome?_append, findSome?_startsOf_singleton,
      ← ih]
    change _ = (relay.phase.started? (relay.feed now [byte]).phase).or _
    cases phase : relay.phase with
    | replaying replay =>
      have busy := @Arrival.phase_after_of_replaying ⟨relay, now, byte⟩ replay phase
      change (relay.feed now [byte]).phase = _ at busy
      rw [busy]
      rfl
    | passThrough =>
      cases first : (relay.feed now [byte]).phase with
      | passThrough => rfl
      | replaying replay =>
        rw [feed_of_replaying first, first]
        rfl

theorem Turn.started?_eq (turn : Turn) :
    turn.started? = (startsOf turn.arrivals).findSome? id := by
  have waiting : turn.before.phase = turn.waiting.phase := rfl
  rw [Turn.started?, turn.middle_eq_feed, waiting, started?_feed]
  rfl

/-- The octets decide about the steps. -/
theorem SameReplays.of_octets {stubs : StubTable} {first second : List Operation}
    (octets : (turns (new stubs) second).map (fun turn => startsOf turn.arrivals) =
      (turns (new stubs) first).map fun turn => startsOf turn.arrivals) :
    SameReplays stubs first second where
  steps := by
    have each : Turn.started? = (fun starts : List (Option Trigger) => starts.findSome? id) ∘
        fun turn => startsOf turn.arrivals := funext Turn.started?_eq
    rw [each, ← List.map_map, octets, List.map_map]
  octets := octets

/-! ## Lines -/

theorem lineStart?_snoc_newline (front : List Arrival) {arrival : Arrival}
    (ends : arrival.byte = newline) : lineStart? (front ++ [arrival]) = some arrival := by
  rw [lineStart?, List.rdropWhile_concat_neg _ _ _ (by simp [ends]), List.getLast?_concat]

theorem lineStart?_snoc_inner (front : List Arrival) {arrival : Arrival}
    (inner : arrival.byte ≠ newline) : lineStart? (front ++ [arrival]) = lineStart? front := by
  rw [lineStart?, List.rdropWhile_concat_pos _ _ _ (by simp [inner])]
  rfl

/-- A carriage return on either side of a line does not matter. -/
theorem strip_carriages {line : List UInt8} (plain : carriageReturn ∉ line) (front back : Bool) :
    Scanner.stripBack (Scanner.stripFront (carriage front ++ line ++ carriage back)) = line := by
  cases line with
  | nil => cases front <;> cases back <;> rfl
  | cons first rest =>
    have visible : first ≠ carriageReturn := fun same => plain (same ▸ List.mem_cons_self)
    have unfronted : Scanner.stripFront (carriage front ++ (first :: rest) ++ carriage back) =
        (first :: rest) ++ carriage back := by
      cases front with
      | true =>
        change Scanner.stripFront (carriageReturn :: ((first :: rest) ++ carriage back)) = _
        rw [Scanner.stripFront, if_pos rfl]
      | false =>
        change Scanner.stripFront (first :: (rest ++ carriage back)) = _
        rw [Scanner.stripFront, if_neg visible]
        rfl
    rw [unfronted]
    cases back with
    | true =>
      rw [Scanner.stripBack, carriage, if_pos rfl, List.getLast?_concat, if_pos rfl,
        List.dropLast_concat]
    | false =>
      rw [carriage, if_neg Bool.false_ne_true, List.append_nil, Scanner.stripBack, if_neg]
      exact fun last => plain (List.mem_of_getLast? last)

/-- What a line needs to know of an octet: its value, and the phase in which it
is reached. -/
def Arrival.sight (arrival : Arrival) : UInt8 × Phase := (arrival.byte, arrival.before.phase)

/-- Whether a line completes a trigger can be told from the sights of its
octets. -/
theorem completes_iff {line : List Arrival} {arrival : Arrival} {trigger : Trigger}
    {sights : List (UInt8 × Phase)} (seen : line.map Arrival.sight = sights) :
    Completes line arrival trigger ↔
      arrival.byte = newline ∧ arrival.Scanned ∧ (∀ sight ∈ sights, sight.2 = .passThrough) ∧
        Scanner.stripBack (Scanner.stripFront (sights.map Prod.fst)) = trigger.tokenBytes := by
  have bytes : sights.map Prod.fst = line.map Arrival.byte := by
    rw [← seen, List.map_map]
    rfl
  unfold Completes
  rw [bytes, ← seen, List.forall_mem_append, List.forall_mem_singleton, List.forall_mem_map,
    and_comm (b := arrival.Scanned), and_assoc]
  rfl

/-- The carriage return that the line starts with under these line ends, if it
starts behind a newline. -/
def LineEnd.lead (ending : LineEnd) (front : List Arrival) : List (UInt8 × Phase) :=
  if ending.behind then
    (lineStart? front).toList.map fun arrival => (carriageReturn, arrival.after.phase)
  else []

/-- Two histories are at corresponding octets, and they have been in the same
phase at all of them. -/
structure Abreast (stubs : StubTable) (ending : LineEnd) (front others : List Arrival)
    (relay other : Relay) : Prop where
  heard : Heard stubs front relay
  otherHeard : Heard stubs others other
  phase : other.phase = relay.phase
  /-- The lines differ in the carriage return in front of them. -/
  line : (lineOf others).map Arrival.sight =
    ending.lead front ++ (lineOf front).map Arrival.sight
  plain : carriageReturn ∉ (lineOf front).map Arrival.byte

/-! ## Carriage returns -/

section

variable (relay : Relay) (now : Nat) (present : Bool)

theorem phase_feed_carriage : (relay.feed now (carriage present)).phase = relay.phase := by
  cases present with
  | false => exact congrArg Relay.phase feed_nil
  | true =>
    have inner : carriageReturn ≠ newline := by decide
    exact @phase_after_of_inner ⟨relay, now, carriageReturn⟩ inner

theorem startsOf_carriage : startsOf (arrivals now relay (carriage present)) = [] := by
  cases present <;> rfl

theorem sights_carriage (front : List Arrival) :
    (lineOf (front ++ arrivals now relay (carriage present))).map Arrival.sight =
      (lineOf front).map Arrival.sight ++ (carriage present).map fun byte => (byte, relay.phase) := by
  cases present with
  | false =>
    change (lineOf (front ++ [])).map Arrival.sight = _ ++ []
    rw [List.append_nil, List.append_nil]
  | true =>
    change (lineOf (front ++ [⟨relay, now, carriageReturn⟩])).map Arrival.sight = _
    rw [lineOf_append_inner front (show carriageReturn ≠ newline by decide), List.map_append]
    rfl

end

namespace LineEnd

variable {ending : LineEnd} {front : List Arrival}

theorem bytes_lead (ending : LineEnd) (front : List Arrival) :
    ∃ present, (ending.lead front).map Prod.fst = carriage present := by
  unfold lead
  split
  · cases lineStart? front with
    | none => exact ⟨false, rfl⟩
    | some start => exact ⟨true, rfl⟩
  · exact ⟨false, rfl⟩

theorem lead_scanned_iff :
    (∀ sight ∈ ending.lead front, sight.2 = .passThrough) ↔
      (ending.behind = true -> StartsQuietly front) := by
  unfold lead StartsQuietly
  cases ending.behind <;> simp

end LineEnd

/-! ## What an octet starts -/

namespace Arrival

variable {arrival : Arrival}

theorem started?_eq_some_iff {trigger : Trigger} :
    arrival.started? = some trigger ↔
      arrival.Tries trigger ∧ ∃ vector, arrival.before.stubs.vector trigger = .ok vector := by
  by_cases tried : ∃ tried, arrival.Tries tried
  · rcases tried with ⟨tried, tries⟩
    have free : arrival.before.phase = .passThrough := tries.1
    have only : ∀ other, arrival.Tries other ↔ other = tried := by
      intro other
      constructor
      · intro otherTries
        exact Option.some.inj (otherTries.2.symm.trans tries.2)
      · intro same
        exact same ▸ tries
    rw [started?, phase_after_of_tries tries, free, only]
    cases stub : arrival.before.stubs.vector tried with
    | ok vector =>
      constructor
      · intro same
        cases same
        exact ⟨rfl, vector, stub⟩
      · rintro ⟨same, _⟩
        rw [same]
        rfl
    | error cause =>
      constructor
      · intro impossible
        cases impossible
      · rintro ⟨same, vector, playable⟩
        rw [same, stub] at playable
        cases playable
  · have silent := not_exists.mp tried
    rw [started?, phase_after_of_silent silent, Phase.started?_self]
    exact iff_of_false nofun fun both => silent trigger both.1

/-- What an octet starts is all that it can change about the phase. -/
theorem phase_after_eq (arrival : Arrival) :
    arrival.after.phase =
      match arrival.started? with
      | none => arrival.before.phase
      | some trigger =>
        match arrival.before.stubs.vector trigger with
        | .ok vector => .replaying (.start trigger vector arrival.now)
        | .error _ => .passThrough := by
  cases started : arrival.started? with
  | some trigger => exact phase_after_of_tries (started?_eq_some_iff.mp started).1
  | none =>
    rw [started?] at started
    cases before : arrival.before.phase with
    | replaying replay => exact phase_after_of_replaying before
    | passThrough =>
      cases after : arrival.after.phase with
      | passThrough => rfl
      | replaying replay =>
        rw [before, after] at started
        cases started

end Arrival

/-! ## Two histories side by side -/

namespace Abreast

variable {stubs : StubTable} {ending : LineEnd} {front others : List Arrival}
variable {relay other : Relay}

theorem wait (abreast : Abreast stubs ending front others relay other) {next otherNext : Relay}
    (waits : Waits relay next) (otherWaits : Waits other otherNext)
    (phase : otherNext.phase = next.phase) :
    Abreast stubs ending front others next otherNext where
  heard := abreast.heard.wait waits
  otherHeard := abreast.otherHeard.wait otherWaits
  phase := phase
  line := abreast.line
  plain := abreast.plain

/-- Inside a line nothing changes. -/
theorem inner (abreast : Abreast stubs ending front others relay other) (now : Nat) {byte : UInt8}
    (inner : byte ≠ newline) (visible : byte ≠ carriageReturn) :
    Abreast stubs ending (front ++ arrivals now relay [byte]) (others ++ arrivals now other [byte])
      (relay.feed now [byte]) (other.feed now [byte]) where
  heard := abreast.heard.feed now [byte]
  otherHeard := abreast.otherHeard.feed now [byte]
  phase := by
    have first := @phase_after_of_inner ⟨relay, now, byte⟩ inner
    have second := @phase_after_of_inner ⟨other, now, byte⟩ inner
    exact second.trans (abreast.phase.trans first.symm)
  line := by
    simp only [arrivals]
    rw [lineOf_append_inner _ inner, lineOf_append_inner _ inner, List.map_append, abreast.line,
      List.map_append, List.append_assoc]
    simp only [LineEnd.lead, @lineStart?_snoc_inner front ⟨relay, now, byte⟩ inner,
      List.map_cons, List.map_nil, Arrival.sight, abreast.phase]
  plain := by
    simp only [arrivals]
    rw [lineOf_append_inner _ inner, List.map_append, List.mem_append]
    rintro (earlier | last)
    · exact abreast.plain earlier
    · exact visible (List.mem_singleton.mp last).symm

/-- The other history at the newline, behind the carriage return that may stand
in front of it. -/
def otherEnd (ending : LineEnd) (other : Relay) (now : Nat) : Arrival :=
  ⟨other.feed now (carriage ending.before), now, newline⟩

theorem scanned_otherEnd (abreast : Abreast stubs ending front others relay other) (now : Nat) :
    (otherEnd ending other now).Scanned ↔ relay.phase = .passThrough := by
  unfold Arrival.Scanned otherEnd
  rw [phase_feed_carriage, abreast.phase]

/-- The line at the end in the other history, with the carriage returns on
either side of it. -/
theorem sights_otherEnd (abreast : Abreast stubs ending front others relay other) (now : Nat) :
    (lineOf (others ++ arrivals now other (carriage ending.before))).map Arrival.sight =
      ending.lead front ++ (lineOf front).map Arrival.sight ++
        (carriage ending.before).map fun byte => (byte, relay.phase) := by
  rw [sights_carriage, abreast.line, abreast.phase]

/-- The other history tries the same trigger at the newline, unless the
carriage return in front of the line was passed over. -/
theorem tries_iff (abreast : Abreast stubs ending front others relay other) (now : Nat)
    (trigger : Trigger) :
    (otherEnd ending other now).Tries trigger ↔
      (⟨relay, now, newline⟩ : Arrival).Tries trigger ∧
        (ending.behind = true -> StartsQuietly front) := by
  have heard := abreast.otherHeard.feed now (carriage ending.before)
  have bytes : ((lineOf front).map Arrival.sight).map Prod.fst = (lineOf front).map Arrival.byte := by
    rw [List.map_map]
    rfl
  have token := strip_carriages abreast.plain false false
  rw [carriage, if_neg Bool.false_ne_true, List.nil_append, List.append_nil] at token
  rcases ending.bytes_lead front with ⟨present, lead⟩
  have otherToken := strip_carriages abreast.plain present ending.before
  have before : ((carriage ending.before).map fun byte => (byte, relay.phase)).map Prod.fst =
      carriage ending.before := by
    rw [List.map_map]
    exact List.map_id _
  rw [@tries_iff_completes _ (otherEnd ending other now) heard.tracks,
    @tries_iff_completes _ ⟨relay, now, newline⟩ abreast.heard.tracks,
    completes_iff (abreast.sights_otherEnd now), completes_iff rfl, abreast.scanned_otherEnd now,
    List.map_append, List.map_append, lead, bytes, before, otherToken, token,
    List.forall_mem_append, List.forall_mem_append, ending.lead_scanned_iff]
  constructor
  · rintro ⟨_, free, ⟨⟨quiet, whole⟩, _⟩, same⟩
    exact ⟨⟨rfl, free, whole, same⟩, quiet⟩
  · rintro ⟨⟨_, free, whole, same⟩, quiet⟩
    refine ⟨rfl, free, ⟨⟨quiet, whole⟩, ?_⟩, same⟩
    intro sight member
    rcases List.mem_map.mp member with ⟨byte, _, seen⟩
    exact seen ▸ free

/-- The other history starts the same at the newline exactly if nothing is
started there or the line has started quietly. -/
theorem started?_iff (abreast : Abreast stubs ending front others relay other) (now : Nat) :
    (otherEnd ending other now).started? = (⟨relay, now, newline⟩ : Arrival).started? ↔
      (ending.behind = true -> (⟨relay, now, newline⟩ : Arrival).started? ≠ none ->
        StartsQuietly front) := by
  have stubs : (otherEnd ending other now).before.stubs = relay.stubs := by
    rw [abreast.heard.stubs_eq]
    exact (abreast.otherHeard.feed now (carriage ending.before)).stubs_eq
  have each : ∀ trigger, (otherEnd ending other now).started? = some trigger ↔
      (⟨relay, now, newline⟩ : Arrival).started? = some trigger ∧
        (ending.behind = true -> StartsQuietly front) := by
    intro trigger
    rw [Arrival.started?_eq_some_iff, Arrival.started?_eq_some_iff, abreast.tries_iff, stubs]
    exact and_right_comm
  constructor
  · intro same behind starts
    rcases Option.ne_none_iff_exists'.mp starts with ⟨trigger, started⟩
    exact ((each trigger).mp (same.trans started)).2 behind
  · intro quiet
    cases started : (⟨relay, now, newline⟩ : Arrival).started? with
    | some trigger =>
      refine (each trigger).mpr ⟨started, fun behind => quiet behind ?_⟩
      rw [started]
      exact Option.some_ne_none trigger
    | none =>
      apply Option.eq_none_iff_forall_ne_some.mpr
      intro trigger otherStarted
      have impossible := ((each trigger).mp otherStarted).1
      rw [started] at impossible
      cases impossible

theorem spell_newline (ending : LineEnd) :
    ending.spell newline = carriage ending.before ++ ([newline] ++ carriage ending.behind) :=
  if_pos rfl

theorem arrivals_newline (ending : LineEnd) (other : Relay) (now : Nat) :
    arrivals now other (ending.spell newline) =
      arrivals now other (carriage ending.before) ++ ([otherEnd ending other now] ++
        arrivals now (otherEnd ending other now).after (carriage ending.behind)) := by
  rw [spell_newline, arrivals_append, arrivals_append]
  rfl

theorem startsOf_newline (ending : LineEnd) (other : Relay) (now : Nat) :
    startsOf (arrivals now other (ending.spell newline)) =
      [(otherEnd ending other now).started?] := by
  rw [arrivals_newline, startsOf_append, startsOf_append, startsOf_carriage, startsOf_carriage,
    startsOf_singleton (show newline ≠ carriageReturn by decide)]
  rfl

/-- Behind a newline the histories are abreast again if they have started the
same. -/
theorem newline (abreast : Abreast stubs ending front others relay other) (now : Nat)
    (same : (otherEnd ending other now).started? =
      (⟨relay, now, Relay.newline⟩ : Arrival).started?) :
    Abreast stubs ending (front ++ arrivals now relay [Relay.newline])
      (others ++ arrivals now other (ending.spell Relay.newline))
      (relay.feed now [Relay.newline]) (other.feed now (ending.spell Relay.newline)) := by
  have stubs : (otherEnd ending other now).before.stubs = relay.stubs := by
    rw [abreast.heard.stubs_eq]
    exact (abreast.otherHeard.feed now (carriage ending.before)).stubs_eq
  have phase : (otherEnd ending other now).after.phase =
      (relay.feed now [Relay.newline]).phase := by
    have before : (otherEnd ending other now).before.phase = relay.phase :=
      (phase_feed_carriage other now ending.before).trans abreast.phase
    have first := Arrival.phase_after_eq ⟨relay, now, Relay.newline⟩
    rw [Arrival.phase_after_eq, same, stubs, before]
    exact first.symm
  have ends := @lineOf_append_newline front ⟨relay, now, Relay.newline⟩ rfl
  refine ⟨abreast.heard.feed now _, abreast.otherHeard.feed now _, ?_, ?_, ?_⟩
  · rw [spell_newline, feed_append, feed_append, phase_feed_carriage]
    exact phase
  · simp only [arrivals]
    rw [arrivals_newline, ends, ← List.append_assoc, ← List.append_assoc, sights_carriage,
      lineOf_append_newline _ (show (otherEnd ending other now).byte = Relay.newline from rfl),
      phase, LineEnd.lead, lineStart?_snoc_newline front rfl, List.map_nil, List.nil_append,
      List.append_nil]
    cases ending.behind <;> rfl
  · simp only [arrivals]
    rw [ends]
    exact List.not_mem_nil

/-- One octet and what stands for it. -/
theorem octet (abreast : Abreast stubs ending front others relay other) (now : Nat) {byte : UInt8}
    (visible : byte ≠ carriageReturn) :
    ∃ start otherStart, startsOf (arrivals now relay [byte]) = [start] ∧
      startsOf (arrivals now other (ending.spell byte)) = [otherStart] ∧
      (otherStart = start ↔ (ending.behind = true -> Quiet front (arrivals now relay [byte]))) ∧
      (otherStart = start -> Abreast stubs ending (front ++ arrivals now relay [byte])
        (others ++ arrivals now other (ending.spell byte)) (relay.feed now [byte])
        (other.feed now (ending.spell byte))) := by
  have start : startsOf (arrivals now relay [byte]) =
      [(⟨relay, now, byte⟩ : Arrival).started?] := startsOf_singleton visible
  by_cases ends : byte = Relay.newline
  · subst ends
    refine ⟨_, _, start, startsOf_newline ending other now, ?_, abreast.newline now⟩
    rw [abreast.started?_iff]
    simp only [arrivals, Quiet, and_true]
  · have single : ending.spell byte = [byte] := if_neg ends
    have nothing : (⟨relay, now, byte⟩ : Arrival).started? = none := started?_of_inner ends
    have otherNothing : (⟨other, now, byte⟩ : Arrival).started? = none := started?_of_inner ends
    rw [single]
    refine ⟨_, _, start, startsOf_singleton visible, ?_, fun _ => abreast.inner now ends visible⟩
    refine iff_of_true (otherNothing.trans nothing.symm) fun _ => ⟨?_, trivial⟩
    intro starts
    exact absurd nothing starts

/-- The octets of an event start the same in both histories exactly if they are
quiet, and then the histories stay abreast. -/
theorem feed (abreast : Abreast stubs ending front others relay other) (now : Nat)
    {bytes : List UInt8} (plain : carriageReturn ∉ bytes) :
    (startsOf (arrivals now other (bytes.flatMap ending.spell)) =
        startsOf (arrivals now relay bytes) ↔
      (ending.behind = true -> Quiet front (arrivals now relay bytes))) ∧
    (startsOf (arrivals now other (bytes.flatMap ending.spell)) =
        startsOf (arrivals now relay bytes) ->
      Abreast stubs ending (front ++ arrivals now relay bytes)
        (others ++ arrivals now other (bytes.flatMap ending.spell))
        (relay.feed now bytes) (other.feed now (bytes.flatMap ending.spell))) := by
  induction bytes generalizing front others relay other with
  | nil =>
    refine ⟨iff_of_true rfl fun _ => trivial, fun _ => ?_⟩
    rw [List.flatMap_nil, feed_nil, feed_nil, arrivals, arrivals, List.append_nil, List.append_nil]
    exact abreast
  | cons byte rest ih =>
    rcases List.ne_and_not_mem_of_not_mem_cons plain with ⟨visible, others⟩
    rcases abreast.octet now visible.symm with ⟨start, otherStart, first, otherFirst, iff, next⟩
    have split : arrivals now relay (byte :: rest) =
        arrivals now relay [byte] ++ arrivals now (relay.feed now [byte]) rest := rfl
    rw [List.flatMap_cons, arrivals_append, split, startsOf_append, startsOf_append, first,
      otherFirst, quiet_append, List.singleton_append, List.singleton_append, List.cons.injEq,
      feed_append, feed_cons byte rest, ← List.append_assoc, ← List.append_assoc]
    constructor
    · constructor
      · rintro ⟨same, later⟩ behind
        exact ⟨iff.mp same behind, (ih (next same) others).1.mp later behind⟩
      · intro quiet
        have same := iff.mpr fun behind => (quiet behind).1
        exact ⟨same, (ih (next same) others).1.mpr fun behind => (quiet behind).2⟩
    · rintro ⟨same, later⟩
      exact (ih (next same) others).2 later

end Abreast

/-! ## Whole histories -/

/-- The phase at the end of a step comes from the one behind the event. -/
theorem Turn.phase_after_eq (turn : Turn) :
    turn.after.phase =
      match turn.middle.phase with
      | .passThrough => .passThrough
      | .replaying replay => (replayChunk replay turn.now turn.pins).phase := by
  cases phase : turn.middle.phase with
  | passThrough => rw [(Turn.step_of_passThrough phase).1, phase]
  | replaying replay => rw [(Turn.step_of_replaying phase).1]

namespace LineEnd

variable (ending : LineEnd)

theorem bytesOn_rewriteEvent (events : List Event) :
    bytesOn .uartFromTarget (events.map ending.rewriteEvent) =
      (bytesOn .uartFromTarget events).flatMap ending.spell := by
  induction events with
  | nil => rfl
  | cons event rest ih =>
    have first : bytesOn .uartFromTarget [ending.rewriteEvent event] =
        (bytesOn .uartFromTarget [event]).flatMap ending.spell := by
      by_cases uart : event.port = .uartFromTarget <;> simp [bytesOn, rewriteEvent, uart]
    rw [List.map_cons, ← List.singleton_append, bytesOn_append, ih, first, ← List.flatMap_append,
      ← bytesOn_append]
    rfl

end LineEnd

theorem bytesOn_tail_subset (port : Port) (events : List Event) :
    bytesOn port events.tail ⊆ bytesOn port events := by
  cases events with
  | nil => exact List.nil_subset _
  | cons event rest => exact List.subset_append_right _ _

/-- Of the events in a queue only the first one is handled. -/
theorem Turn.bytes_subset (turn : Turn) :
    turn.bytes ⊆ bytesOn .uartFromTarget turn.before.queue := by
  unfold Turn.bytes Turn.handled
  cases turn.before.queue with
  | nil => exact List.nil_subset _
  | cons event rest =>
    rw [List.head?_cons, Option.toList_some, show event :: rest = [event] ++ rest from rfl,
      bytesOn_append]
    exact List.subset_append_left _ _

/-- A step in both histories, with the same time and the same pins. -/
theorem Abreast.turn {stubs : StubTable} {ending : LineEnd} {front others : List Arrival}
    {relay other : Relay} (abreast : Abreast stubs ending front others relay other)
    (queue : other.queue = relay.queue.map ending.rewriteEvent)
    (plain : carriageReturn ∉ bytesOn .uartFromTarget relay.queue) (now : Nat) (pins : Pins) :
    let turn : Turn := ⟨relay, now, pins⟩
    let otherTurn : Turn := ⟨other, now, pins⟩
    (startsOf otherTurn.arrivals = startsOf turn.arrivals ↔
      (ending.behind = true -> Quiet front turn.arrivals)) ∧
    (startsOf otherTurn.arrivals = startsOf turn.arrivals ->
      Abreast stubs ending (front ++ turn.arrivals) (others ++ otherTurn.arrivals) turn.after
        otherTurn.after) := by
  intro turn otherTurn
  have bytes : otherTurn.bytes = turn.bytes.flatMap ending.spell := by
    rw [Turn.bytes, Turn.bytes, ← ending.bytesOn_rewriteEvent, ← Option.toList_map]
    simp only [otherTurn, turn, Turn.handled, queue, List.head?_map]
  have waiting : Abreast stubs ending front others turn.waiting otherTurn.waiting :=
    abreast.wait (waits_waiting turn) (waits_waiting otherTurn) abreast.phase
  have handled : carriageReturn ∉ turn.bytes := fun member => plain (turn.bytes_subset member)
  rcases waiting.feed now handled with ⟨iff, next⟩
  rw [← bytes] at iff next
  refine ⟨iff, fun same => ?_⟩
  have middle := next same
  change Abreast stubs ending (front ++ turn.arrivals) (others ++ otherTurn.arrivals)
    (turn.waiting.feed turn.now turn.bytes) (otherTurn.waiting.feed otherTurn.now otherTurn.bytes)
    at middle
  rw [← Turn.middle_eq_feed, ← Turn.middle_eq_feed] at middle
  refine middle.wait (waits_after turn) (waits_after otherTurn) ?_
  rw [Turn.phase_after_eq, Turn.phase_after_eq, middle.phase]

/-- From corresponding relays on, the histories start the same exactly if the
octets are quiet. -/
theorem Abreast.history {stubs : StubTable} {ending : LineEnd} {front others : List Arrival}
    {relay other : Relay} (abreast : Abreast stubs ending front others relay other)
    (queue : other.queue = relay.queue.map ending.rewriteEvent) {operations : List Operation}
    (plain : carriageReturn ∉ bytesOn .uartFromTarget (relay.queue ++ pushed operations)) :
    (turns other (operations.map ending.rewrite)).map (fun turn => startsOf turn.arrivals) =
        (turns relay operations).map (fun turn => startsOf turn.arrivals) ↔
      (ending.behind = true -> Quiet front ((turns relay operations).flatMap Turn.arrivals)) := by
  induction operations generalizing front others relay other with
  | nil => exact iff_of_true rfl fun _ => trivial
  | cons operation rest ih =>
    cases operation with
    | push event =>
      have waits := abreast.wait (waits_push relay event)
        (waits_push other (ending.rewriteEvent event)) abreast.phase
      apply ih waits
      · simp only [push, queue, List.map_append, List.map_cons, List.map_nil]
      · rw [push, List.append_assoc]
        exact plain
    | step now pins =>
      rw [bytesOn_append, List.mem_append, not_or] at plain
      rcases abreast.turn queue plain.1 now pins with ⟨iff, next⟩
      have later : carriageReturn ∉ bytesOn .uartFromTarget
          ((relay.step now pins).relay.queue ++ pushed rest) := by
        rw [queue_step, bytesOn_append, List.mem_append, not_or]
        exact ⟨fun member => plain.1 (bytesOn_tail_subset _ _ member), plain.2⟩
      have queues : (other.step now pins).relay.queue =
          (relay.step now pins).relay.queue.map ending.rewriteEvent := by
        rw [queue_step, queue_step, queue, List.map_tail]
      change startsOf _ :: _ = startsOf _ :: _ ↔ (_ -> Quiet front (_ ++ _))
      rw [List.cons.injEq, quiet_append]
      constructor
      · rintro ⟨same, others⟩ behind
        exact ⟨iff.mp same behind, (ih (next same) queues later).mp others behind⟩
      · intro quiet
        have same := iff.mpr fun behind => (quiet behind).1
        exact ⟨same, (ih (next same) queues later).mpr fun behind => (quiet behind).2⟩

theorem abreast_new (stubs : StubTable) (ending : LineEnd) :
    Abreast stubs ending [] [] (new stubs) (new stubs) where
  heard := .start
  otherHeard := .start
  phase := rfl
  line := by
    unfold LineEnd.lead
    cases ending.behind with
    | false => rfl
    | true => rfl
  plain := List.not_mem_nil

theorem sameReplays_rewrite_iff (stubs : StubTable) (ending : LineEnd)
    {operations : List Operation}
    (plain : carriageReturn ∉ bytesOn .uartFromTarget (pushed operations)) :
    SameReplays stubs operations (operations.map ending.rewrite) ↔
      (ending.behind = true -> Quiet [] (received stubs operations)) := by
  rw [received, ← (abreast_new stubs ending).history rfl plain]
  exact ⟨SameReplays.octets, SameReplays.of_octets⟩

/-- In a history whose lines end with a newline alone, a carriage return in
front of every newline does not change which replays start, nor when.  A
carriage return behind every newline changes nothing exactly if each replay of
the history starts in a line that starts quietly: the newline in front of that
line has not started a replay and has not been passed over. -/
theorem replays_under_line_ends (stubs : StubTable) {operations : List Operation}
    (plain : carriageReturn ∉ bytesOn .uartFromTarget (pushed operations)) :
    SameReplays stubs operations (operations.map LineEnd.returned.rewrite) ∧
      (SameReplays stubs operations (operations.map LineEnd.trailed.rewrite) ↔
        Quiet [] (received stubs operations)) := by
  constructor
  · exact (sameReplays_rewrite_iff stubs .returned plain).mpr nofun
  · rw [sameReplays_rewrite_iff stubs .trailed plain]
    exact forall_prop_of_true rfl

/-- Stubs of a single octet, for a slot and for the bootloader. -/
def tinyStubs (slot : Layout.SlotIndex) : StubTable :=
  (StubTable.empty.insert (.slot slot) (Compression.Zlib.stored ⟨#[1]⟩)).insert .bootloader
    (Compression.Zlib.stored ⟨#[2]⟩)

/-- Two triggers, each in an event of its own. -/
def twoTriggers : List Operation :=
  [.push ⟨.uartFromTarget, "BITSTREAM3\n".toUTF8.toList⟩,
    .push ⟨.uartFromTarget, "BOOTLOADER\n".toUTF8.toList⟩,
    .step 0 fun chunk => .ok chunk.size, .step 1 fun chunk => .ok chunk.size]

/-- With a carriage return in front of each newline both triggers are found. -/
theorem twoTriggers_returned :
    carriageReturn ∉ bytesOn .uartFromTarget (pushed twoTriggers) ∧
      (turns (new (tinyStubs ⟨3, by decide⟩)) (twoTriggers.map LineEnd.returned.rewrite)).map
          Turn.started? = [some (.slot ⟨3, by decide⟩), some .bootloader] := by
  have plain : carriageReturn ∉ bytesOn .uartFromTarget (pushed twoTriggers) := by decide +kernel
  have both : (turns (new (tinyStubs ⟨3, by decide⟩)) twoTriggers).map Turn.started? =
      [some (.slot ⟨3, by decide⟩), some .bootloader] := by decide +kernel
  exact ⟨plain, (replays_under_line_ends (tinyStubs ⟨3, by decide⟩) plain).1.steps.trans both⟩

/-- With a carriage return behind each newline the second trigger is lost: the
first replay passes over the carriage return, which cuts the second line. -/
theorem twoTriggers_trailed :
    carriageReturn ∉ bytesOn .uartFromTarget (pushed twoTriggers) ∧
      (turns (new (tinyStubs ⟨3, by decide⟩)) twoTriggers).map Turn.started? =
        [some (.slot ⟨3, by decide⟩), some .bootloader] ∧
      (turns (new (tinyStubs ⟨3, by decide⟩)) (twoTriggers.map LineEnd.trailed.rewrite)).map
          Turn.started? = [some (.slot ⟨3, by decide⟩), none] ∧
      ¬ SameReplays (tinyStubs ⟨3, by decide⟩) twoTriggers
        (twoTriggers.map LineEnd.trailed.rewrite) := by
  have plain : carriageReturn ∉ bytesOn .uartFromTarget (pushed twoTriggers) := by decide +kernel
  have both : (turns (new (tinyStubs ⟨3, by decide⟩)) twoTriggers).map Turn.started? =
      [some (.slot ⟨3, by decide⟩), some .bootloader] := by decide +kernel
  have lost : (turns (new (tinyStubs ⟨3, by decide⟩))
      (twoTriggers.map LineEnd.trailed.rewrite)).map Turn.started? =
        [some (.slot ⟨3, by decide⟩), none] := by decide +kernel
  refine ⟨plain, both, lost, ?_⟩
  intro same
  have steps := same.steps
  rw [both, lost] at steps
  cases steps

end Relay
end FlashSlots
