import Mathlib
import FlashSlots.Compression.Stored
import FlashSlots.Proofs.Relay.Forwarding
import FlashSlots.Proofs.Relay.Triggers

namespace FlashSlots
namespace Relay

/-!
# What a replay sends

The pins say how many octets of a chunk they have taken, and that number may be
anything.  An `Offer` is a chunk with the answer of the pins.  The offers of one
replay add up to the octets that were taken, and each of them starts where the
ones before it have stopped, so that the board gets the vector without a gap
and without a repetition.

The steps of a replay are found in the history itself: they are the latest ones
after which a replay was under way, and the present one.
-/

/-- A chunk offered to the pins, with their answer. -/
structure Offer where
  chunk : ByteArray
  answer : PinsAnswer

namespace Offer

/-- How many octets the pins have taken.  They cannot take more than there
are. -/
def taken (offer : Offer) : Nat :=
  match offer.answer with
  | .ok count => min count offer.chunk.size
  | .error _ => 0

/-- The octets that the pins have taken. -/
def octets (offer : Offer) : List UInt8 := offer.chunk.data.toList.take offer.taken

def Failed (offer : Offer) : Prop := ∃ cause, offer.answer = .error cause

theorem taken_le_size (offer : Offer) : offer.taken ≤ offer.chunk.size := by
  unfold taken
  split
  · exact Nat.min_le_right _ _
  · exact Nat.zero_le _

end Offer

/-- How many octets the pins have taken in these offers. -/
def total (offers : List Offer) : Nat := (offers.map Offer.taken).sum

theorem total_snoc (offers : List Offer) (offer : Offer) :
    total (offers ++ [offer]) = total offers + offer.taken := by
  simp only [total, List.map_append, List.sum_append, List.map_cons, List.map_nil,
    List.sum_singleton]

def Action.offer? : Action -> Option Offer
  | .drive chunk answer => some ⟨chunk, answer⟩
  | .forward _ => none
  | .warn _ => none

namespace Turn

/-- What is offered to the pins in a step. -/
def offers (turn : Turn) : List Offer := turn.actions.filterMap Action.offer?

end Turn

/-- What is offered to the pins in a series of steps. -/
def offersOf (steps : List Turn) : List Offer := steps.flatMap Turn.offers

theorem offersOf_snoc (steps : List Turn) (turn : Turn) :
    offersOf (steps ++ [turn]) = offersOf steps ++ turn.offers := by
  rw [offersOf, List.flatMap_append, List.flatMap_singleton]
  rfl

/-! ## Slices of a vector -/

/-- Each chunk is cut from the vector where the offers before it have
stopped. -/
def Slices (vector : ByteArray) (offers : List Offer) : Prop :=
  ∀ j (inside : j < offers.length),
    offers[j].chunk = vector.extract (total (offers.take j))
      (min (total (offers.take j) + chunkSize) vector.size)

theorem slices_nil (vector : ByteArray) : Slices vector [] :=
  fun _ inside => absurd inside (Nat.not_lt_zero _)

namespace Slices

variable {vector : ByteArray} {offers : List Offer} {offer : Offer}

theorem snoc (slices : Slices vector offers)
    (next : offer.chunk =
      vector.extract (total offers) (min (total offers + chunkSize) vector.size)) :
    Slices vector (offers ++ [offer]) := by
  intro j inside
  rw [List.length_append, List.length_singleton] at inside
  rcases Nat.lt_succ_iff_lt_or_eq.mp inside with earlier | last
  · rw [List.getElem_append_left earlier, List.take_append_of_le_length (Nat.le_of_lt earlier)]
    exact slices j earlier
  · subst last
    rw [List.getElem_concat_length rfl, List.take_left]
    exact next

theorem of_snoc (slices : Slices vector (offers ++ [offer])) :
    Slices vector offers ∧ offer.chunk =
      vector.extract (total offers) (min (total offers + chunkSize) vector.size) := by
  constructor
  · intro j inside
    have same := slices j (by rw [List.length_append]; omega)
    rw [List.getElem_append_left inside,
      List.take_append_of_le_length (Nat.le_of_lt inside)] at same
    exact same
  · have last := slices offers.length (by rw [List.length_append, List.length_singleton]; omega)
    rw [List.getElem_concat_length rfl, List.take_left] at last
    exact last

/-- The octets that were taken are the start of the vector. -/
theorem octets_eq_take (slices : Slices vector offers) :
    total offers ≤ vector.size ∧
      offers.flatMap Offer.octets = vector.data.toList.take (total offers) := by
  induction offers using List.reverseRecOn with
  | nil => exact ⟨Nat.zero_le _, rfl⟩
  | append_singleton front offer ih =>
    rcases slices.of_snoc with ⟨earlier, chunk⟩
    rcases ih earlier with ⟨inside, octets⟩
    have size : offer.chunk.size = min chunkSize (vector.size - total front) := by
      rw [chunk, ByteArray.size_extract]
      omega
    have taken := offer.taken_le_size
    have cut : offer.octets = (vector.data.toList.drop (total front)).take offer.taken := by
      rw [Offer.octets, chunk, ByteArray.data_extract, Array.toList_extract,
        List.extract_eq_take_drop, List.take_take]
      congr 1
      omega
    rw [total_snoc]
    refine ⟨by omega, ?_⟩
    rw [List.flatMap_append, List.flatMap_singleton, octets, cut, List.take_add]

end Slices

/-! ## A step of a replay -/

theorem offers_handle (relay : Relay) (now : Nat) (event : Event) :
    (relay.handle now event).2.filterMap Action.offer? = [] := by
  rw [List.filterMap_eq_nil_iff]
  intro action member
  cases action with
  | drive chunk answer => exact absurd member not_drive_handle
  | forward other => rfl
  | warn warning => rfl

/-- Unless the time is over, one chunk is offered to the pins.  An error ends
the replay, and so does the last octet; the pins are busy if they take nothing
of what is left. -/
theorem replayChunk_cases (replay : Replay) (now : Nat) (pins : Pins) :
    replayTimeout ≤ now - replay.startedAt ∧
        (replayChunk replay now pins).actions.filterMap Action.offer? = [] ∧
        (replayChunk replay now pins).phase = .passThrough ∨
      now - replay.startedAt < replayTimeout ∧
        (replayChunk replay now pins).actions.filterMap Action.offer? =
          [⟨replay.chunk, pins replay.chunk⟩] ∧
        ((∃ cause, pins replay.chunk = .error cause) ∧
            (replayChunk replay now pins).phase = .passThrough ∨
          ∃ count, pins replay.chunk = .ok count ∧ (replayChunk replay now pins).phase =
            if (replay.advance count).remaining = 0 then .passThrough
            else .replaying (replay.advance count)) := by
  unfold replayChunk
  split
  · next late => exact .inl ⟨late, rfl, rfl⟩
  · next early =>
    right
    refine ⟨Nat.lt_of_not_le early, ?_⟩
    split
    · next cause failed => exact ⟨by rw [failed]; rfl, .inl ⟨⟨cause, failed⟩, rfl⟩⟩
    · next count answered =>
      rw [answered]
      dsimp only
      split
      · next busy =>
        rcases busy with ⟨nothing, left⟩
        subst nothing
        -- Taking nothing leaves the replay as it is.
        have still : replay.advance 0 = replay := by
          simp only [Replay.advance, Nat.zero_min, Nat.add_zero]
        exact ⟨rfl, .inr ⟨0, rfl, by rw [still, if_neg (Nat.ne_of_gt left)]⟩⟩
      · split
        · next done => exact ⟨rfl, .inr ⟨count, rfl, by rw [if_pos done]⟩⟩
        · next more => exact ⟨rfl, .inr ⟨count, rfl, by rw [if_neg more]⟩⟩

namespace Turn

variable {turn : Turn}

theorem offers_reactions (turn : Turn) : turn.reactions.filterMap Action.offer? = [] := by
  cases found : turn.handled with
  | none =>
    rw [(handleNext_of_idle found).2]
    rfl
  | some event =>
    rw [(handleNext_of_handled found).2]
    exact offers_handle turn.waiting turn.now event

theorem offers_of_passThrough (settled : turn.middle.phase = .passThrough) : turn.offers = [] := by
  rw [offers, (step_of_passThrough settled).2, offers_reactions]

theorem offers_of_replaying {replay : Replay} (busy : turn.middle.phase = .replaying replay) :
    turn.offers = (replayChunk replay turn.now turn.pins).actions.filterMap Action.offer? := by
  rw [offers, (step_of_replaying busy).2, List.filterMap_append, offers_reactions, List.nil_append]

theorem phase_after_of_replaying {replay : Replay}
    (busy : turn.middle.phase = .replaying replay) :
    turn.after.phase = (replayChunk replay turn.now turn.pins).phase := by
  rw [(step_of_replaying busy).1]

end Turn

/-! ## The steps of a replay -/

/-- The latest steps after each of which a replay was under way. -/
def sinceStart (front : List Turn) : List Turn :=
  front.rtakeWhile fun turn => turn.after.isReplaying

/-- The steps of a replay up to the present one. -/
def course (front : List Turn) (turn : Turn) : List Turn := sinceStart front ++ [turn]

theorem sinceStart_snoc_of_passThrough (front : List Turn) {turn : Turn}
    (ended : turn.after.phase = .passThrough) : sinceStart (front ++ [turn]) = [] := by
  apply List.rtakeWhile_concat_neg
  simp [isReplaying, ended]

theorem sinceStart_snoc_of_replaying (front : List Turn) {turn : Turn} {replay : Replay}
    (busy : turn.after.phase = .replaying replay) :
    sinceStart (front ++ [turn]) = course front turn := by
  apply List.rtakeWhile_concat_pos
  simp [isReplaying, busy]

/-- Both are the same replay, which may have come further. -/
def Replay.Same (first second : Replay) : Prop :=
  second.trigger = first.trigger ∧ second.vector = first.vector ∧
    second.startedAt = first.startedAt

/-- In these steps a replay has started and has come to this point with these
offers. -/
structure Progress (stubs : StubTable) (steps : List Turn) (offers : List Offer)
    (replay : Replay) : Prop where
  playable : stubs.vector replay.trigger = .ok replay.vector
  /-- The first step has started it, at its own time. -/
  started : ∃ first ∈ steps.head?, first.before.phase = .passThrough ∧
    first.middle.phase = .replaying (.start replay.trigger replay.vector first.now) ∧
    replay.startedAt = first.now
  /-- It has been the same replay all the time. -/
  constant : ∀ step ∈ steps, ∃ current, step.middle.phase = .replaying current ∧
    current.Same replay
  slices : Slices replay.vector offers
  sent : replay.sent = total offers
  answered : ∀ offer ∈ offers, ¬ offer.Failed

/-- The ways in which a replay can end. -/
inductive Ending where
  /-- The pins have taken all of the vector. -/
  | completed
  /-- The pins have failed. -/
  | failed
  | timedOut
  deriving DecidableEq

/-- With these offers the replay comes to this end at this time. -/
def Ending.Applies (replay : Replay) (now : Nat) (offers : List Offer) : Ending -> Prop
  | completed => total offers = replay.vector.size ∧ ∀ offer ∈ offers, ¬ offer.Failed
  | failed => ∃ offer ∈ offers, offer.Failed
  | timedOut => replayTimeout ≤ now - replay.startedAt

namespace Progress

variable {stubs : StubTable} {steps : List Turn} {offers : List Offer} {replay : Replay}

/-- The chunk that is due continues the offers. -/
theorem slices_snoc (progress : Progress stubs steps offers replay) (answer : PinsAnswer) :
    Slices replay.vector (offers ++ [⟨replay.chunk, answer⟩]) := by
  apply progress.slices.snoc
  rw [← progress.sent]
  rfl

theorem advance (progress : Progress stubs steps offers replay) (count : Nat) :
    Progress stubs steps (offers ++ [⟨replay.chunk, .ok count⟩]) (replay.advance count) where
  playable := progress.playable
  started := progress.started
  constant := progress.constant
  slices := progress.slices_snoc (.ok count)
  sent := by
    rw [total_snoc, ← progress.sent]
    rfl
  answered := by
    rw [List.forall_mem_append, List.forall_mem_singleton]
    refine ⟨progress.answered, ?_⟩
    rintro ⟨cause, impossible⟩
    cases impossible

/-- The next step finds the replay as it was left. -/
theorem next (progress : Progress stubs steps offers replay) {turn : Turn}
    (busy : turn.middle.phase = .replaying replay) :
    Progress stubs (steps ++ [turn]) offers replay where
  playable := progress.playable
  started := by
    rcases progress.started with ⟨first, found, rest⟩
    exact ⟨first, List.mem_head?_append_of_mem_head? found, rest⟩
  constant := by
    rw [List.forall_mem_append, List.forall_mem_singleton]
    exact ⟨progress.constant, replay, busy, rfl, rfl, rfl⟩
  slices := progress.slices
  sent := progress.sent
  answered := progress.answered

/-- A step ends the replay in one way, or it goes on and none of them has
come. -/
theorem step (progress : Progress stubs steps offers replay) {turn : Turn}
    (busy : turn.middle.phase = .replaying replay)
    (due : 0 < replay.remaining ∨ replay.sent = 0 ∧ replay.startedAt = turn.now) :
    Slices replay.vector (offers ++ turn.offers) ∧
      (turn.after.phase = .passThrough ∧
          (∃! ending : Ending, ending.Applies replay turn.now (offers ++ turn.offers)) ∧
          ((∃ offer ∈ offers ++ turn.offers, offer.Failed) ->
            total (offers ++ turn.offers) = replay.vector.size -> replay.vector.size = 0) ∨
        ∃ next, turn.after.phase = .replaying next ∧ replay.Same next ∧ 0 < next.remaining ∧
          Progress stubs steps (offers ++ turn.offers) next ∧
          ∀ ending : Ending, ¬ ending.Applies replay turn.now (offers ++ turn.offers)) := by
  have within := replay.within
  have unanswered : ¬ ∃ offer ∈ offers, offer.Failed := by
    rintro ⟨offer, member, failed⟩
    exact progress.answered offer member failed
  rw [Turn.offers_of_replaying busy, Turn.phase_after_of_replaying busy]
  rcases replayChunk_cases replay turn.now turn.pins with
    ⟨late, none, phase⟩ | ⟨early, one, ⟨⟨cause, failed⟩, phase⟩ | ⟨count, answered, phase⟩⟩
  · -- The time is over, and there was something left.
    have left : total offers ≠ replay.vector.size := by
      rw [← progress.sent]
      simp only [Replay.remaining, replayTimeout] at due late
      omega
    rw [none, phase, List.append_nil]
    refine ⟨progress.slices, .inl ⟨rfl, ⟨.timedOut, late, ?_⟩,
      fun failed => absurd failed unanswered⟩⟩
    intro other applies
    cases other with
    | completed => exact absurd applies.1 left
    | failed => exact absurd applies unanswered
    | timedOut => rfl
  · have fails : ∃ offer ∈ offers ++ [⟨replay.chunk, turn.pins replay.chunk⟩], offer.Failed :=
      ⟨_, List.mem_concat_self, cause, failed⟩
    rw [one, phase]
    refine ⟨progress.slices_snoc _, .inl ⟨rfl, ⟨.failed, fails, ?_⟩, ?_⟩⟩
    · intro other applies
      cases other with
      | completed =>
        rcases fails with ⟨offer, member, broken⟩
        exact absurd broken (applies.2 offer member)
      | failed => rfl
      | timedOut => exact absurd applies (Nat.not_le_of_lt early)
    · intro _ whole
      have nothing : Offer.taken ⟨replay.chunk, turn.pins replay.chunk⟩ = 0 := by
        rw [Offer.taken, failed]
      rw [total_snoc, ← progress.sent, nothing] at whole
      simp only [Replay.remaining] at due
      omega
  · have further := progress.advance count
    have inside := (replay.advance count).within
    have sent := further.sent
    have vector : (replay.advance count).vector = replay.vector := rfl
    have unfailed : ¬ ∃ offer ∈ offers ++ [⟨replay.chunk, .ok count⟩], offer.Failed := by
      rintro ⟨offer, member, broken⟩
      exact further.answered offer member broken
    rw [one, phase, answered]
    refine ⟨progress.slices_snoc _, ?_⟩
    by_cases done : (replay.advance count).remaining = 0
    · left
      rw [if_pos done]
      rw [Replay.remaining, vector] at done
      rw [vector] at inside
      refine ⟨rfl, ⟨.completed, ⟨by omega, further.answered⟩, ?_⟩,
        fun broken => absurd broken unfailed⟩
      intro other applies
      cases other with
      | completed => rfl
      | failed => exact absurd applies unfailed
      | timedOut => exact absurd applies (Nat.not_le_of_lt early)
    · right
      rw [if_neg done]
      refine ⟨_, rfl, ⟨rfl, rfl, rfl⟩, Nat.pos_of_ne_zero done, further, ?_⟩
      rw [Replay.remaining, vector] at done
      rintro (_ | _ | _) applies
      · have whole := applies.1
        omega
      · exact unfailed applies
      · exact absurd applies (Nat.not_le_of_lt early)

end Progress

/-! ## A history -/

theorem Reached.heard {stubs : StubTable} {front : List Turn} {relay : Relay}
    (reached : Reached stubs front relay) :
    Heard stubs (front.flatMap Turn.arrivals) relay := by
  induction reached with
  | start => exact .start
  | push event _ ih => exact ih.wait (waits_push _ event)
  | step _ ih =>
    rw [List.flatMap_append, List.flatMap_singleton]
    exact ih.turn

/-- The latest steps of a history account for the replay under way. -/
def Accounted (stubs : StubTable) (front : List Turn) : Phase -> Prop
  | .passThrough => sinceStart front = []
  | .replaying replay =>
    Progress stubs (sinceStart front) (offersOf (sinceStart front)) replay ∧ 0 < replay.remaining

section

variable {stubs : StubTable} {front : List Turn} {turn : Turn} {replay : Replay}

/-- Handling an event starts a replay or leaves it alone. -/
theorem Accounted.middle (reached : Reached stubs front turn.before)
    (accounted : Accounted stubs front turn.before.phase)
    (busy : turn.middle.phase = .replaying replay) :
    Progress stubs (course front turn) (offersOf (sinceStart front)) replay ∧
      (0 < replay.remaining ∨ replay.sent = 0 ∧ replay.startedAt = turn.now) := by
  cases phase : turn.before.phase with
  | passThrough =>
    rw [phase] at accounted
    have none : sinceStart front = [] := accounted
    rcases (Turn.starts_iff phase replay).mp busy with
      ⟨_, _, trigger, vector, _, playable, same⟩
    rw [reached.heard.stubs_eq] at playable
    subst same
    rw [course, none]
    refine ⟨⟨playable, ⟨turn, rfl, phase, busy, rfl⟩, ?_, slices_nil vector, rfl, ?_⟩,
      .inr ⟨rfl, rfl⟩⟩
    · intro step member
      rw [List.nil_append, List.mem_singleton] at member
      exact ⟨_, member ▸ busy, rfl, rfl, rfl⟩
    · intro offer impossible
      cases impossible
  | replaying current =>
    rw [phase] at accounted
    cases (Turn.middle_of_replaying phase).symm.trans busy
    exact ⟨accounted.1.next busy, .inl accounted.2⟩

theorem Reached.accounted {relay : Relay} (reached : Reached stubs front relay) :
    Accounted stubs front relay.phase := by
  induction reached with
  | start => rfl
  | push event _ ih => exact ih
  | @step front turn reached ih =>
    cases middle : turn.middle.phase with
    | passThrough =>
      have settled : turn.after.phase = .passThrough := by
        rw [(Turn.step_of_passThrough middle).1]
        exact middle
      rw [settled]
      exact sinceStart_snoc_of_passThrough front settled
    | replaying replay =>
      rcases ih.middle reached middle with ⟨progress, due⟩
      rcases (progress.step middle due).2 with ⟨ended, _⟩ | ⟨next, busy, _, left, further, _⟩
      · rw [ended]
        exact sinceStart_snoc_of_passThrough front ended
      · rw [busy]
        refine ⟨?_, left⟩
        rw [sinceStart_snoc_of_replaying front busy, course, offersOf_snoc]
        exact further

end

/-- In every history each chunk that is offered to the pins belongs to a
replay, and is the slice of its vector from where the pins have stopped taking
in the offers of this replay before it; so what they have taken is the start of
the vector.  Trigger, vector and starting time stay the same.  A step ends the
replay exactly if all of the vector is taken, the pins have failed or the time
is over, and of these only one is the case. -/
theorem replay_sends_vector (stubs : StubTable) (operations : List Operation)
    {front back : List Turn} {turn : Turn}
    (shape : turns (new stubs) operations = front ++ turn :: back) :
    (turn.middle.phase = .passThrough -> turn.offers = []) ∧
      ∀ replay, turn.middle.phase = .replaying replay ->
        Progress stubs (course front turn) (offersOf (sinceStart front)) replay ∧
        Slices replay.vector (offersOf (course front turn)) ∧
        (offersOf (course front turn)).flatMap Offer.octets =
          replay.vector.data.toList.take (total (offersOf (course front turn))) ∧
        (turn.after.phase = .passThrough ∧
            (∃! ending : Ending,
              ending.Applies replay turn.now (offersOf (course front turn))) ∧
            ((∃ offer ∈ offersOf (course front turn), offer.Failed) ->
              total (offersOf (course front turn)) = replay.vector.size ->
                replay.vector.size = 0) ∨
          ∃ next, turn.after.phase = .replaying next ∧ replay.Same next ∧
            next.sent = total (offersOf (course front turn)) ∧
            ∀ ending : Ending,
              ¬ ending.Applies replay turn.now (offersOf (course front turn))) := by
  have reached := Reached.start.before_turn shape
  refine ⟨Turn.offers_of_passThrough, ?_⟩
  intro replay busy
  rcases reached.accounted.middle reached busy with ⟨progress, due⟩
  rcases progress.step busy due with ⟨slices, comes⟩
  rw [course, offersOf_snoc]
  refine ⟨progress, slices, slices.octets_eq_take.2, ?_⟩
  rcases comes with ended | ⟨next, goes, same, _, further, none⟩
  · exact .inl ended
  · exact .inr ⟨next, goes, same, further.sent, none⟩

/-- A table with one stub of three octets. -/
def shortStubs : StubTable :=
  StubTable.empty.insert .bootloader (Compression.Zlib.stored ⟨#[1, 2, 3]⟩)

/-- The pins take two octets, are busy, and then say that they have taken more
than there are. -/
def haltingReplay : List Operation :=
  [.push ⟨.uartFromTarget, "BOOTLOADER\n".toUTF8.toList⟩, .step 5 fun _ => .ok 2,
    .step 7 fun _ => .ok 0, .step 9 fun _ => .ok 9]

theorem haltingReplay_sends_vector :
    ∃ front turn replay, turns (new shortStubs) haltingReplay = front ++ [turn] ∧
      turn.middle.phase = .replaying replay ∧ replay.vector = ⟨#[1, 2, 3]⟩ ∧ replay.sent = 2 ∧
      (offersOf (course front turn)).map (fun offer => offer.chunk.data.toList) =
        [[1, 2, 3], [3], [3]] ∧
      (offersOf (course front turn)).flatMap Offer.octets = [1, 2, 3] ∧
      turn.after.phase = .passThrough ∧
      ∃! ending : Ending, ending.Applies replay turn.now (offersOf (course front turn)) := by
  let front := (turns (new shortStubs) haltingReplay).take 2
  let turn : Turn := ⟨final (new shortStubs) (haltingReplay.take 3), 9, fun _ => .ok 9⟩
  let replay : Replay := ⟨.bootloader, ⟨#[1, 2, 3]⟩, 2, 5, by decide⟩
  have shape : turns (new shortStubs) haltingReplay = front ++ [turn] := rfl
  have busy : turn.middle.phase = .replaying replay := by decide +kernel
  have ended : turn.after.phase = .passThrough := by decide +kernel
  have chunks : (offersOf (course front turn)).map (fun offer => offer.chunk.data.toList) =
      [[1, 2, 3], [3], [3]] := by decide +kernel
  have three : total (offersOf (course front turn)) = 3 := by decide +kernel
  rcases (replay_sends_vector shortStubs haltingReplay shape).2 replay busy with
    ⟨_, _, octets, ⟨_, one, _⟩ | ⟨next, goes, _⟩⟩
  · rw [three] at octets
    exact ⟨front, turn, replay, shape, busy, rfl, rfl, chunks, octets, ended, one⟩
  · cases ended.symm.trans goes

end Relay
end FlashSlots
