import FlashSlots.Flash.Sharing

namespace FlashSlots
namespace Flash

/-!
# One session at a time

The lock is with at most one caller, and only the caller that has it makes
calls.  So as long as a programmer is open, no other one is opened, written to
or closed, in whatever order the callers make their moves.

The calls of a single caller follow from the stages that it goes through.  Its
programmer is opened once, and if it has opened, it is closed once, behind all
its writes: by finishing or by dropping, but not by both.  The lock is given
back after that.
-/

variable {σ : Type}

/-! ## The stages of a caller -/

/-- The caller has the lock. -/
def Stage.holds : Stage -> Bool
  | .waiting => false
  | .opening => true
  | .session _ => true
  | .leaving => true
  | .gone => false

/-- Which stage a move leads to, and what it does.  Opening, writing and closing
may have any result. -/
inductive Stage.Leads : Stage -> Move -> Option Call -> Stage -> Prop where
  | locks : Leads .waiting .lock (some .locked) .opening
  | opens : Leads .opening .acquire (some (.acquired (.ok ()))) (.session false)
  | refuses (cause : TransportError) :
      Leads .opening .acquire (some (.acquired (.error cause))) .leaving
  | writes {mode : Mode} {kind : WriteKind} {address : UInt32} {payload : ByteArray}
      (result : Except Fault Unit) :
      Leads (.session false) (.write mode kind address payload) (some (.written result))
        (.session false)
  | finishes (result : Except TransportError Unit) :
      Leads (.session false) .finish (some (.released result)) (.session true)
  | drops (result : Except TransportError Unit) :
      Leads (.session false) .drop (some (.released result)) .leaving
  | dropsFinished : Leads (.session true) .drop none .leaving
  | unlocks : Leads .leaving .unlock (some .unlocked) .gone

theorem Caller.leads_of_advance {caller next : Caller σ} {move : Move} {call : Option Call}
    (made : caller.advance move = some (next, call)) :
    caller.stage.Leads move call next.stage := by
  unfold Caller.advance at made
  split at made
  · next waiting =>
    cases made
    rw [waiting]
    exact .locks
  · next opening =>
    rw [opening]
    unfold Caller.acquire at made
    split at made
    · cases made
      exact .opens
    · next cause _ _ =>
      cases made
      exact .refuses cause
  · next inside =>
    cases made
    rw [inside]
    exact .writes _
  · next inside =>
    cases made
    rw [inside]
    exact .finishes _
  · next inside =>
    cases made
    rw [inside]
    exact .drops _
  · next finished =>
    cases made
    rw [finished]
    exact .dropsFinished
  · next leaving =>
    cases made
    rw [leaving]
    exact .unlocks
  · cases made

/-! ## The calls of a caller -/

def AreWrites (calls : List Call) : Prop := ∀ call ∈ calls, ∃ result, call = .written result

/-- Everything up to the end of a session: the programmer did not open, or it
was opened, then written to, then closed. -/
inductive Completed : List Call -> Prop where
  | refused (cause : TransportError) : Completed [.locked, .acquired (.error cause)]
  | closed {writes : List Call} (written : AreWrites writes)
      (result : Except TransportError Unit) :
      Completed (.locked :: .acquired (.ok ()) :: (writes ++ [.released result]))

/-- What a caller has done when it has come to a stage. -/
def Story : Stage -> List Call -> Prop
  | .waiting, calls => calls = []
  | .opening, calls => calls = [.locked]
  | .session false, calls =>
    ∃ writes, AreWrites writes ∧ calls = .locked :: .acquired (.ok ()) :: writes
  | .session true, calls =>
    ∃ writes result, AreWrites writes ∧
      calls = .locked :: .acquired (.ok ()) :: (writes ++ [.released result])
  | .leaving, calls => Completed calls
  | .gone, calls => ∃ done, Completed done ∧ calls = done ++ [.unlocked]

/-- A move goes on with the story. -/
theorem Story.leads {first second : Stage} {move : Move} {call : Option Call}
    {calls : List Call} (story : Story first calls) (leads : first.Leads move call second) :
    Story second (calls ++ call.toList) := by
  cases leads with
  | locks =>
    cases story
    rfl
  | opens =>
    cases story
    exact ⟨[], List.forall_mem_nil _, rfl⟩
  | refuses cause =>
    cases story
    exact .refused cause
  | writes result =>
    rcases story with ⟨writes, written, rfl⟩
    refine ⟨writes ++ [.written result], ?_, rfl⟩
    intro call listed
    rcases List.mem_append.mp listed with earlier | last
    · exact written call earlier
    · exact ⟨result, List.mem_singleton.mp last⟩
  | finishes result =>
    rcases story with ⟨writes, written, rfl⟩
    exact ⟨writes, result, written, rfl⟩
  | drops result =>
    rcases story with ⟨writes, written, rfl⟩
    exact .closed written result
  | dropsFinished =>
    rcases story with ⟨writes, result, written, rfl⟩
    rw [Option.toList_none, List.append_nil]
    exact .closed written result
  | unlocks => exact ⟨calls, story, rfl⟩

/-- The programmer was opened and has not been closed since then. -/
def IsOpen (calls : List Call) : Prop :=
  ∃ before since, calls = before ++ .acquired (.ok ()) :: since ∧
    ∀ result, Call.released result ∉ since

/-- A caller without the lock has no open programmer. -/
theorem Story.not_isOpen {stage : Stage} {calls : List Call} (story : Story stage calls)
    (outside : stage.holds = false) : ¬ IsOpen calls := by
  rintro ⟨before, since, shape, unclosed⟩
  cases stage with
  | waiting =>
    cases story
    cases before <;> cases shape
  | opening => cases outside
  | session closed => cases outside
  | leaving => cases outside
  | gone =>
    rcases story with ⟨done, completed, rfl⟩
    cases completed with
    | refused cause =>
      have opened : Call.acquired (.ok ()) ∈ [.locked, .acquired (.error cause), .unlocked] := by
        rw [show [.locked, .acquired (.error cause), .unlocked] =
          before ++ .acquired (.ok ()) :: since from shape]
        simp
      simp at opened
    | @closed writes written result =>
      -- Only the second call can be the opening, and the closing is behind it.
      rcases before with _ | ⟨first, _ | ⟨second, rest⟩⟩
      · cases shape
      · have behind : writes ++ [.released result] ++ [.unlocked] = since :=
          (List.cons.inj (List.cons.inj shape).2).2
        apply unclosed result
        rw [← behind]
        simp
      · have behind : writes ++ [.released result] ++ [.unlocked] =
            rest ++ .acquired (.ok ()) :: since := (List.cons.inj (List.cons.inj shape).2).2
        have again : Call.acquired (.ok ()) ∈ writes ++ [.released result] ++ [.unlocked] := by
          rw [behind]
          simp
        rcases written (.acquired (.ok ())) (by simpa using again) with ⟨other, impossible⟩
        cases impossible

/-! ## The lock -/

/-- A move takes the free lock, gives it back, or is made with it. -/
theorem Stage.Leads.holder {first second : Stage} {move : Move} {call : Option Call}
    (leads : first.Leads move call second) {who : Nat} {before after : Option Nat}
    (admitted : move.holderAfter before who = some after) :
    (before = none ∧ after = some who ∧ second.holds = true) ∨
      first.holds = true ∧ after = none ∧ second.holds = false ∨
      first.holds = true ∧ after = before ∧ second.holds = true := by
  cases leads with
  | locks =>
    left
    rw [Move.holderAfter] at admitted
    split at admitted
    · next free => exact ⟨free, (Option.some.inj admitted).symm, rfl⟩
    · cases admitted
  | unlocks => exact .inr (.inl ⟨rfl, (Option.some.inj admitted).symm, rfl⟩)
  | refuses cause => exact .inr (.inr ⟨rfl, (Option.some.inj admitted).symm, rfl⟩)
  | drops result => exact .inr (.inr ⟨rfl, (Option.some.inj admitted).symm, rfl⟩)
  | dropsFinished => exact .inr (.inr ⟨rfl, (Option.some.inj admitted).symm, rfl⟩)
  | opens => exact .inr (.inr ⟨rfl, (Option.some.inj admitted).symm, rfl⟩)
  | writes result => exact .inr (.inr ⟨rfl, (Option.some.inj admitted).symm, rfl⟩)
  | finishes result => exact .inr (.inr ⟨rfl, (Option.some.inj admitted).symm, rfl⟩)

namespace Hall

/-- Where a caller stands.  Nobody else ever comes. -/
def stageAt (hall : Hall σ) (who : Nat) : Stage :=
  (hall.callers[who]?.map Caller.stage).getD .waiting

theorem stageAt_of_listed {hall : Hall σ} {who : Nat} {caller : Caller σ}
    (listed : hall.callers[who]? = some caller) : hall.stageAt who = caller.stage := by
  rw [stageAt, listed]
  rfl

/-- Everything that a step can do: the lock admits the move, one caller goes on
to another stage, and the others stay where they are. -/
theorem step_cases {hall next : Hall σ} {who : Nat} {move : Move} {call : Option Call}
    (made : hall.step who move = some (next, call)) :
    move.holderAfter hall.holder who = some next.holder ∧
      (hall.stageAt who).Leads move call (next.stageAt who) ∧
      ∀ other, other ≠ who -> next.stageAt other = hall.stageAt other := by
  simp only [step, Option.bind_eq_bind, Option.bind_eq_some_iff, Option.pure_def,
    Option.some.injEq, Prod.mk.injEq] at made
  rcases made with ⟨caller, listed, holder, admitted, ⟨moved, done⟩, advanced, rfl, rfl⟩
  have inside : who < hall.callers.length := (List.getElem?_eq_some_iff.mp listed).1
  refine ⟨admitted, ?_, ?_⟩
  · rw [stageAt_of_listed listed, stageAt, List.getElem?_set_self inside]
    exact Caller.leads_of_advance advanced
  · intro other different
    rw [stageAt, stageAt, List.getElem?_set_ne (Ne.symm different)]

end Hall

/-- The calls of one caller. -/
def callsOf (who : Nat) (record : CallRecord) : List Call :=
  record.filterMap fun entry => if entry.1 = who then some entry.2 else none

/-- What a move adds to the record. -/
def entries (who : Nat) (call : Option Call) : CallRecord :=
  call.toList.map fun call => (who, call)

theorem callsOf_append_self (who : Nat) (record : CallRecord) (call : Option Call) :
    callsOf who (record ++ entries who call) = callsOf who record ++ call.toList := by
  cases call <;> simp [callsOf, entries]

theorem callsOf_append_of_ne {who other : Nat} (different : other ≠ who) (record : CallRecord)
    (call : Option Call) : callsOf other (record ++ entries who call) = callsOf other record := by
  cases call <;> simp [callsOf, entries, Ne.symm different]

/-- While a programmer is open, nobody else makes a call. -/
def Exclusive (record : CallRecord) : Prop :=
  ∀ front who call back, record = front ++ (who, call) :: back ->
    ∀ other, IsOpen (callsOf other front) -> other = who

theorem exclusive_nil : Exclusive [] := by
  intro front who call back impossible
  cases front <;> cases impossible

theorem Exclusive.entries {record : CallRecord} (exclusive : Exclusive record) {who : Nat}
    (alone : ∀ other, IsOpen (callsOf other record) -> other = who) (call : Option Call) :
    Exclusive (record ++ entries who call) := by
  cases call with
  | none =>
    rw [Flash.entries, Option.toList_none, List.map_nil, List.append_nil]
    exact exclusive
  | some call =>
    intro front first other back shape
    rcases List.eq_nil_or_concat back with none | ⟨others, last, same⟩
    · subst none
      rcases List.append_inj' shape rfl with ⟨sameFront, sameLast⟩
      cases sameFront
      cases sameLast
      exact alone
    · subst same
      rw [List.concat_eq_append, ← List.cons_append, ← List.append_assoc] at shape
      exact exclusive front first other others (List.append_inj' shape rfl).1

/-- The stages account for the record, and the lock is with the caller whose
stage says so. -/
structure Consistent (hall : Hall σ) (record : CallRecord) : Prop where
  stories : ∀ who, Story (hall.stageAt who) (callsOf who record)
  lock : ∀ who, hall.holder = some who ↔ (hall.stageAt who).holds = true
  exclusive : Exclusive record

theorem consistent_gather (programmers : List (Programmer σ × σ)) :
    Consistent (Hall.gather programmers) [] := by
  have waiting : ∀ who, (Hall.gather programmers).stageAt who = .waiting := by
    intro who
    rw [Hall.stageAt, Hall.gather, List.getElem?_map]
    cases programmers[who]? <;> rfl
  refine ⟨?_, ?_, exclusive_nil⟩
  · intro who
    rw [waiting]
    rfl
  · intro who
    rw [waiting]
    exact ⟨nofun, nofun⟩

namespace Consistent

variable {hall next : Hall σ} {record : CallRecord} {who : Nat} {move : Move}
  {call : Option Call}

/-- Whoever makes a move is the only one who can have the lock. -/
theorem alone (consistent : Consistent hall record)
    (made : hall.step who move = some (next, call)) {other : Nat}
    (holds : hall.holder = some other) : other = who := by
  rcases Hall.step_cases made with ⟨admitted, leads, _⟩
  rcases leads.holder admitted with ⟨free, _⟩ | ⟨held, _⟩ | ⟨held, _⟩
  · cases free.symm.trans holds
  · exact Option.some.inj (holds.symm.trans ((consistent.lock who).mpr held))
  · exact Option.some.inj (holds.symm.trans ((consistent.lock who).mpr held))

theorem step (consistent : Consistent hall record)
    (made : hall.step who move = some (next, call)) :
    Consistent next (record ++ entries who call) := by
  rcases Hall.step_cases made with ⟨admitted, leads, others⟩
  refine ⟨?_, ?_, ?_⟩
  · intro other
    by_cases same : other = who
    · subst same
      rw [callsOf_append_self]
      exact (consistent.stories other).leads leads
    · rw [callsOf_append_of_ne same, others other same]
      exact consistent.stories other
  · intro other
    by_cases same : other = who
    · subst same
      rcases leads.holder admitted with ⟨_, taken, holds⟩ | ⟨_, given, gone⟩ | ⟨held, kept, holds⟩
      · simp [taken, holds]
      · simp [given, gone]
      · simp [kept, holds, (consistent.lock other).mpr held]
    · rw [others other same, ← consistent.lock other]
      have outside : hall.holder ≠ some other := fun holds => same (consistent.alone made holds)
      rcases leads.holder admitted with ⟨_, taken, _⟩ | ⟨_, given, _⟩ | ⟨_, kept, _⟩
      · simp [taken, Ne.symm same, outside]
      · simp [given, outside]
      · rw [kept]
  · apply consistent.exclusive.entries
    intro other opened
    refine Decidable.byContradiction fun different => ?_
    have outside : (hall.stageAt other).holds = false := by
      rw [← Bool.not_eq_true, ← consistent.lock other]
      exact fun holds => different (consistent.alone made holds)
    exact (consistent.stories other).not_isOpen outside opened

theorem run {schedule : Schedule} {calls : CallRecord} (consistent : Consistent hall record)
    (made : hall.run schedule = some (next, calls)) : Consistent next (record ++ calls) := by
  induction schedule generalizing hall record calls with
  | nil =>
    cases made
    rw [List.append_nil]
    exact consistent
  | cons first rest ih =>
    rcases first with ⟨who, move⟩
    simp only [Hall.run, Option.bind_eq_bind, Option.bind_eq_some_iff, Option.pure_def,
      Option.some.injEq, Prod.mk.injEq] at made
    rcases made with ⟨⟨middle, call⟩, stepped, ⟨last, later⟩, ran, rfl, rfl⟩
    have behind := ih (consistent.step stepped) ran
    rw [List.append_assoc] at behind
    exact behind

end Consistent

/-! ## A session from its beginning to its end -/

namespace Hall

/-- The hall with this caller in a place, and this holder of the lock. -/
def seat (hall : Hall σ) (who : Nat) (caller : Caller σ) (holder : Option Nat) : Hall σ :=
  ⟨hall.callers.set who caller, holder⟩

/-- Moves of one caller alone lead from the first state to the second. -/
def LeadsAlone (who : Nat) (first last : Hall σ) : Prop :=
  ∃ moves : List Move, ∃ record, first.run (moves.map fun move => (who, move)) = some (last, record)

theorem LeadsAlone.refl (who : Nat) (hall : Hall σ) : LeadsAlone who hall hall := ⟨[], [], rfl⟩

theorem LeadsAlone.head {who : Nat} {first next last : Hall σ} {move : Move} {call : Option Call}
    (made : first.step who move = some (next, call)) (behind : LeadsAlone who next last) :
    LeadsAlone who first last := by
  rcases behind with ⟨moves, record, ran⟩
  refine ⟨move :: moves, entries who call ++ record, ?_⟩
  simp only [List.map_cons, run, made, ran, Option.bind_eq_bind, Option.bind_some,
    Option.pure_def, entries]

section

variable {hall : Hall σ} {who : Nat} (inside : who < hall.callers.length)

include inside

theorem step_seat {caller next : Caller σ} {before after : Option Nat} (move : Move)
    {call : Option Call} (admitted : move.holderAfter before who = some after)
    (advanced : caller.advance move = some (next, call)) :
    (hall.seat who caller before).step who move = some (hall.seat who next after, call) := by
  have listed : (hall.callers.set who caller)[who]? = some caller :=
    List.getElem?_set_self inside
  simp only [step, seat, listed, admitted, advanced, Option.bind_eq_bind, Option.bind_some,
    Option.pure_def, List.set_set]

variable (programmer : Programmer σ) (mode : Mode)

/-- The writes of an execution are moves, whether it comes to its end or not. -/
theorem leadsAlone_of_issueFrom (total : Nat) (ops : List WriteOp) (written skipped : List String)
    (state : σ) {last : Hall σ}
    (behind : LeadsAlone who
      (hall.seat who ⟨programmer, (issueFrom programmer mode total written skipped ops state).2,
        .session false⟩ (some who)) last) :
    LeadsAlone who (hall.seat who ⟨programmer, state, .session false⟩ (some who)) last := by
  induction ops generalizing written skipped state with
  | nil => exact behind
  | cons op rest ih =>
    unfold issueFrom at behind
    split at behind
    · refine .head (step_seat inside (.write mode op.kind op.address op.payload) rfl rfl) ?_
      split at behind
      · next issued =>
        simp only [issued]
        exact ih _ _ _ behind
      · next failed =>
        simp only [failed]
        exact behind
    · exact ih _ _ _ behind

/-- The end of a session, with a report or without one. -/
theorem leadsAlone_of_drop (state : σ) :
    LeadsAlone who (hall.seat who ⟨programmer, state, .session false⟩ (some who))
      (hall.seat who ⟨programmer, (Session.finish programmer state).2, .gone⟩ none) :=
  .head (step_seat inside .drop rfl rfl) <| .head (step_seat inside .unlock rfl rfl) (.refl who _)

theorem leadsAlone_of_finish (state : σ) :
    LeadsAlone who (hall.seat who ⟨programmer, state, .session false⟩ (some who))
      (hall.seat who ⟨programmer, (Session.finish programmer state).2, .gone⟩ none) :=
  .head (step_seat inside .finish rfl rfl) <| .head (step_seat inside .drop rfl rfl) <|
    .head (step_seat inside .unlock rfl rfl) (.refl who _)

/-- With the lock a caller can go through a whole session. -/
theorem leadsAlone_of_opening (plan : WritePlan) (state : σ) :
    LeadsAlone who (hall.seat who ⟨programmer, state, .opening⟩ (some who))
      (hall.seat who ⟨programmer, (Session.run programmer mode plan state).2, .gone⟩ none) := by
  let caller : Caller σ := ⟨programmer, state, .opening⟩
  rw [Session.run]
  rcases acquired : Session.acquire programmer state with ⟨cause | _, opened⟩
  · have refused : caller.advance .acquire =
        some (⟨programmer, opened, .leaving⟩, some (.acquired (.error cause))) := by
      simp only [caller, Caller.advance, Caller.acquire, acquired, Prod.map, id]
    refine .head (step_seat inside .acquire rfl refused) ?_
    exact .head (step_seat inside .unlock rfl rfl) (.refl who _)
  · have succeeded : caller.advance .acquire =
        some (⟨programmer, opened, .session false⟩, some (.acquired (.ok ()))) := by
      simp only [caller, Caller.advance, Caller.acquire, acquired, Prod.map, id]
    refine .head (step_seat inside .acquire rfl succeeded) ?_
    refine leadsAlone_of_issueFrom inside programmer mode plan.ops.length plan.ops [] [] opened ?_
    change LeadsAlone who (hall.seat who
      ⟨programmer, (execute programmer mode plan opened).2, .session false⟩ (some who)) _
    dsimp only
    rcases execute programmer mode plan opened with ⟨abort | report, written⟩
    · exact leadsAlone_of_drop inside programmer written
    · exact leadsAlone_of_finish inside programmer written

end

/-- When the lock is free, whoever waits can go through a whole session, and
comes out of it with what the session does to its programmer. -/
theorem leadsAlone_session {hall : Hall σ} {who : Nat} {programmer : Programmer σ} {state : σ}
    (waiting : hall.callers[who]? = some (.new programmer state)) (free : hall.holder = none)
    (mode : Mode) (plan : WritePlan) :
    LeadsAlone who hall
      (hall.seat who ⟨programmer, (Session.run programmer mode plan state).2, .gone⟩ none) := by
  rcases List.getElem?_eq_some_iff.mp waiting with ⟨inside, here⟩
  have start : hall.seat who (.new programmer state) none = hall := by
    rw [seat, ← here, List.set_getElem_self, ← free]
  have locked : (hall.seat who (.new programmer state) none).step who .lock =
      some (hall.seat who ⟨programmer, state, .opening⟩ (some who), some .locked) :=
    step_seat inside .lock rfl rfl
  rw [start] at locked
  exact .head locked (leadsAlone_of_opening inside programmer mode plan state)

end Hall

/-- However many callers there are and in whatever order they make their moves:
while a programmer is open, nobody else makes a call.  The calls of each caller
are those of its stage: it opens its programmer once, and if that succeeds, it
closes it once, behind all its writes, and then gives the lock back; if it does
not, there is no write and no closing.  When everybody waits or has gone, the
lock is free, and whoever waits can go through a whole session. -/
theorem sessions_exclude_each_other {programmers : List (Programmer σ × σ)}
    {schedule : Schedule} {last : Hall σ} {record : CallRecord}
    (made : (Hall.gather programmers).run schedule = some (last, record)) :
    Exclusive record ∧
      (∀ who caller, last.callers[who]? = some caller ->
        Story caller.stage (callsOf who record)) ∧
      ((∀ caller ∈ last.callers, caller.stage = .waiting ∨ caller.stage = .gone) ->
        last.holder = none ∧
          ∀ who programmer state, last.callers[who]? = some (.new programmer state) ->
            ∀ mode plan, Hall.LeadsAlone who last
              (last.seat who ⟨programmer, (Session.run programmer mode plan state).2, .gone⟩
                none)) := by
  have consistent : Consistent last record := (consistent_gather programmers).run made
  refine ⟨consistent.exclusive, ?_, ?_⟩
  · intro who caller listed
    rw [← Hall.stageAt_of_listed listed]
    exact consistent.stories who
  · intro settled
    have free : last.holder = none := by
      rw [Option.eq_none_iff_forall_ne_some]
      intro who holds
      have inside := (consistent.lock who).mp holds
      cases listed : last.callers[who]? with
      | none => simp [Hall.stageAt, listed, Stage.holds] at inside
      | some caller =>
        rw [Hall.stageAt_of_listed listed] at inside
        rcases settled caller (List.mem_of_getElem? listed) with waiting | gone
        · simp [waiting, Stage.holds] at inside
        · simp [gone, Stage.holds] at inside
    exact ⟨free, fun who programmer state waiting => Hall.leadsAlone_session waiting free⟩

/-- It does not always open or close, and it gives out after one write. -/
def moody (opens closes : Except Fault Unit) : Programmer Nat where
  name := "moody"
  acquire := fun count => (opens, count)
  write := fun _ _ _ _ count =>
    (if count = 0 then .ok () else .error (.failed "worn out"), count + 1)
  release := fun count => (closes, count)
  describe := fun _ op => op.describe

/-- One programmer fails a write, one does not open, and one does not close. -/
def moodyHall : Hall Nat :=
  .gather [(moody (.ok ()) (.ok ()), 0), (moody (.error (.failed "no cable")) (.ok ()), 0),
    (moody (.ok ()) (.error (.failed "not saved")), 0)]

def moodySchedule : Schedule :=
  [(2, .lock), (2, .acquire), (2, .finish), (2, .drop), (2, .unlock), (0, .lock), (0, .acquire),
    (0, .write .persistent .raw 0x100000 ⟨#[1]⟩), (0, .write .persistent .raw 0x100400 ⟨#[2]⟩),
    (0, .drop), (0, .unlock), (1, .lock), (1, .acquire), (1, .unlock)]

theorem moodySessions_exclude_each_other :
    ∃ last record, moodyHall.run moodySchedule = some (last, record) ∧
      callsOf 0 record = [.locked, .acquired (.ok ()), .written (.ok ()),
        .written (.error (.failed "worn out")), .released (.ok ()), .unlocked] ∧
      callsOf 1 record =
        [.locked, .acquired (.error (.unavailable "moody" "no cable")), .unlocked] ∧
      callsOf 2 record = [.locked, .acquired (.ok ()),
        .released (.error (.closeFailed "moody" "not saved")), .unlocked] ∧
      Exclusive record ∧ last.holder = none := by
  rcases sessions_exclude_each_other (show moodyHall.run moodySchedule = some (_, _) from rfl) with
    ⟨exclusive, _, free⟩
  refine ⟨_, _, rfl, rfl, rfl, rfl, exclusive, (free ?_).1⟩
  decide

end Flash
end FlashSlots
