import Mathlib.Data.List.DropRight
import FlashSlots.Proofs.Selector.Protocol

namespace FlashSlots
namespace Selector

/-!
# When a press is long

The button is only known from its samples.  A release is an unbroken run of up
samples, and how long it was depends on where it is taken to end: at the last
sample that shows it, or at the down sample behind it.  The button takes the
first view, since it asks for the time of a release at up samples only; a
release that is long only because no sample came for a while does not end a
press.

`InPress` says what a press is, for either view, in terms of the samples alone.
`Button.Matches` ties the state of the button to it.
-/

/-- A reading of the button. -/
structure Sample where
  now : Nat
  down : Bool

/-! ## Releases -/

/-- When the unbroken run of up samples at the end began. -/
def upSince? (past : List Sample) : Option Nat :=
  (past.rtakeWhile fun sample => !sample.down).head?.map Sample.now

/-- How long the button has been up at this time, as far as these samples
know. -/
def upFor (past : List Sample) (time : Nat) : Nat :=
  match upSince? past with
  | none => 0
  | some first => time - first

/-- How long a release was, by some measure, that ends before a sample. -/
abbrev ReleaseTime := List Sample -> Sample -> Nat

/-- From the first up sample to the down sample behind the release. -/
def lasted : ReleaseTime := fun past next => upFor past next.now

/-- From the first up sample to the last one. -/
def seen : ReleaseTime := fun past _ => ((past.getLast?).map fun last => upFor past last.now).getD 0

theorem upSince?_snoc (past : List Sample) (sample : Sample) :
    upSince? (past ++ [sample]) =
      if sample.down then none else some ((upSince? past).getD sample.now) := by
  unfold upSince?
  rw [List.rtakeWhile_concat]
  cases sample.down with
  | true => rfl
  | false =>
    cases past.rtakeWhile fun earlier => !earlier.down with
    | nil => rfl
    | cons first rest => rfl

theorem seen_snoc (past : List Sample) (sample next : Sample) :
    seen (past ++ [sample]) next =
      if sample.down then 0 else sample.now - (upSince? past).getD sample.now := by
  unfold seen upFor
  rw [List.getLast?_concat, upSince?_snoc]
  cases sample.down <;> rfl

theorem seen_of_upSince?_eq_none {past : List Sample} (none : upSince? past = none)
    (next : Sample) : seen past next = 0 := by
  unfold seen upFor
  rw [none]
  cases past.getLast? <;> rfl

/-- Times do not run backwards. -/
def Ordered (samples : List Sample) : Prop :=
  samples.Pairwise fun earlier later => earlier.now ≤ later.now

/-- A release is not seen for longer than it lasted. -/
theorem seen_le_lasted {past : List Sample} {next : Sample} (ordered : Ordered (past ++ [next])) :
    seen past next ≤ lasted past next := by
  unfold seen lasted
  cases last : past.getLast? with
  | none => exact Nat.zero_le _
  | some last' =>
    have member : last' ∈ past := List.mem_of_getLast? last
    have before : last'.now ≤ next.now :=
      (List.pairwise_append.mp ordered).2.2 last' member next (List.mem_singleton.mpr rfl)
    change upFor past last'.now ≤ upFor past next.now
    unfold upFor
    split
    · exact Nat.le_refl _
    · exact Nat.sub_le_sub_right before _

/-! ## Presses -/

/-- The button after these samples. -/
def buttonAfter (past : List Sample) : Button :=
  past.foldl (fun button sample => (button.sample sample.now sample.down).1) .idle

/-- What is reported at a sample. -/
def report (past : List Sample) (sample : Sample) : Option Press :=
  ((buttonAfter past).sample sample.now sample.down).2

theorem buttonAfter_snoc (past : List Sample) (sample : Sample) :
    buttonAfter (past ++ [sample]) =
      ((buttonAfter past).sample sample.now sample.down).1 := by
  rw [buttonAfter, List.foldl_append]
  rfl

/-- There is no press at the end of these samples: the button was never down, or
its release has been long by now. -/
def Rests (release : ReleaseTime) (past : List Sample) (next : Sample) : Prop :=
  (∀ earlier ∈ past, earlier.down = false) ∨ debounceTime ≤ release past next

/-- The samples `since` belong to the press that `start` has begun: all releases
among them are bounce. -/
structure InPress (release : ReleaseTime) (before : List Sample) (start : Sample)
    (since : List Sample) : Prop where
  down : start.down = true
  begins : Rests release before start
  held : ∀ middle next rest, since = middle ++ next :: rest -> next.down = true ->
    release (before ++ start :: middle) next < debounceTime

/-- The press has been reported as long. -/
def Reported (before : List Sample) (start : Sample) (since : List Sample) : Prop :=
  ∃ middle next rest, start :: since = middle ++ next :: rest ∧
    report (before ++ middle) next = some .long

/-- The sample finds a press that has been held for the time of a long press and
has not been reported. -/
def LongAt (release : ReleaseTime) (past : List Sample) (sample : Sample) : Prop :=
  sample.down = true ∧ ∃ before start since, past = before ++ start :: since ∧
    InPress release before start (since ++ [sample]) ∧
    start.now + longPressTime ≤ sample.now ∧ ¬ Reported before start since

namespace InPress

variable {release : ReleaseTime} {before since : List Sample} {start sample : Sample}

theorem snoc_iff :
    InPress release before start (since ++ [sample]) ↔
      InPress release before start since ∧
        (sample.down = true -> release (before ++ start :: since) sample < debounceTime) := by
  constructor
  · intro press
    refine ⟨⟨press.down, press.begins, ?_⟩, press.held since sample [] rfl⟩
    intro middle next rest shape
    apply press.held middle next (rest ++ [sample])
    rw [shape, List.append_assoc, List.cons_append]
  · rintro ⟨press, last⟩
    refine ⟨press.down, press.begins, ?_⟩
    intro middle next rest shape down
    rcases split_snoc shape with ⟨same, empty⟩ | ⟨shorter, _, inside⟩
    · subst same empty
      rw [(List.append_inj' shape rfl).1] at last
      exact last down
    · exact press.held middle next shorter inside down

/-- A press that goes on is not begun anew. -/
theorem not_inPress {inner later : List Sample} {next : Sample}
    (press : InPress release before start (inner ++ next :: later)) (rest : List Sample) :
    ¬ InPress release (before ++ start :: inner) next rest := by
  intro anew
  rcases anew.begins with never | long
  · have up := never start (List.mem_append_right _ List.mem_cons_self)
    rw [press.down] at up
    cases up
  · exact absurd (press.held inner next later rfl anew.down) (Nat.not_lt.mpr long)

/-- Every sample belongs to one press only. -/
theorem unique {before' since' : List Sample} {start' : Sample}
    (first : InPress release before start since) (second : InPress release before' start' since')
    (same : before ++ start :: since = before' ++ start' :: since') :
    before = before' ∧ start = start' ∧ since = since' := by
  rcases List.append_eq_append_iff.mp same with ⟨between, front, back⟩ | ⟨between, front, back⟩
  · cases between with
    | nil =>
      rw [List.append_nil] at front
      exact ⟨front.symm, (List.cons.inj back).1, (List.cons.inj back).2⟩
    | cons head inner =>
      rcases List.cons.inj back with ⟨here, behind⟩
      subst here behind front
      exact absurd second (first.not_inPress since')
  · cases between with
    | nil =>
      rw [List.append_nil] at front
      exact ⟨front, (List.cons.inj back).1.symm, (List.cons.inj back).2.symm⟩
    | cons head inner =>
      rcases List.cons.inj back with ⟨here, behind⟩
      subst here behind front
      exact absurd first (second.not_inPress since)

end InPress

/-- A sample within a press reports it, or it has been reported before. -/
theorem reported_snoc_iff {before since : List Sample} {start sample : Sample} :
    Reported before start (since ++ [sample]) ↔
      Reported before start since ∨ report (before ++ start :: since) sample = some .long := by
  constructor
  · rintro ⟨middle, next, rest, shape, long⟩
    rw [← List.cons_append] at shape
    rcases split_snoc shape with ⟨same, empty⟩ | ⟨shorter, _, inside⟩
    · subst same empty
      rw [← (List.append_inj' shape rfl).1] at long
      exact .inr long
    · exact .inl ⟨middle, next, shorter, inside, long⟩
  · rintro (⟨middle, next, rest, shape, long⟩ | long)
    · refine ⟨middle, next, rest ++ [sample], ?_, long⟩
      rw [← List.cons_append, shape, List.append_assoc, List.cons_append]
    · exact ⟨start :: since, sample, [], (List.cons_append ..).symm, long⟩

/-! ## What the button knows -/

/-- A press since this time, which has been reported or not. -/
def Knows (past : List Sample) (time : Nat) (reported : Bool) : Prop :=
  ∃ before start since, past = before ++ start :: since ∧ InPress seen before start since ∧
    start.now = time ∧ (reported = true ↔ Reported before start since)

/-- What the samples before a state of the button must have been. -/
def Button.Matches (past : List Sample) : Button -> Prop
  | .idle => ∀ next, Rests seen past next
  | .held time reported => upSince? past = none ∧ Knows past time reported
  | .released time reported first =>
    upSince? past = some first ∧ (∀ next, seen past next < debounceTime) ∧ Knows past time reported

section

variable {past : List Sample} {sample : Sample} {time : Nat} {reported : Bool}

theorem Knows.snoc (knows : Knows past time reported)
    (bounce : sample.down = true -> seen past sample < debounceTime) :
    Knows (past ++ [sample]) time (reported || report past sample == some .long) := by
  rcases knows with ⟨before, start, since, shape, press, begun, known⟩
  refine ⟨before, start, since ++ [sample], ?_, ?_, begun, ?_⟩
  · rw [shape, List.append_assoc, List.cons_append]
  · rw [InPress.snoc_iff, ← shape]
    exact ⟨press, bounce⟩
  · rw [reported_snoc_iff, ← shape, Bool.or_eq_true, known, beq_iff_eq]

theorem Button.hold_eq (time : Nat) (reported : Bool) (now : Nat) :
    (hold time reported now).1 =
      .held time (reported || (hold time reported now).2 == some .long) := by
  unfold hold
  cases reported with
  | true => rfl
  | false => split <;> rfl

/-- A press goes on with a down sample. -/
theorem Knows.matches_hold (knows : Knows past time reported) (down : sample.down = true)
    (bounce : seen past sample < debounceTime)
    (reports : report past sample = (Button.hold time reported sample.now).2) :
    (Button.hold time reported sample.now).1.Matches (past ++ [sample]) := by
  rw [Button.hold_eq, ← reports]
  refine ⟨?_, knows.snoc fun _ => bounce⟩
  rw [upSince?_snoc, down, if_pos rfl]

/-- A press goes on with an up sample, or its release is confirmed. -/
theorem Knows.matches_letGo {first : Nat} (knows : Knows past time reported)
    (up : sample.down = false) (since : (upSince? past).getD sample.now = first)
    (reports : report past sample = (Button.letGo time reported first sample.now).2) :
    (Button.letGo time reported first sample.now).1.Matches (past ++ [sample]) := by
  have length (next : Sample) : seen (past ++ [sample]) next = sample.now - first := by
    rw [seen_snoc, up, if_neg Bool.false_ne_true, since]
  unfold Button.letGo at reports ⊢
  split at reports
  · next short =>
    rw [if_pos short]
    refine ⟨?_, fun next => (length next).symm ▸ short, ?_⟩
    · rw [upSince?_snoc, up, if_neg Bool.false_ne_true, since]
    · have released : sample.down = true -> seen past sample < debounceTime := by
        intro down
        rw [up] at down
        cases down
      have next := knows.snoc released
      rw [reports] at next
      rwa [← Bool.or_false reported]
  · next long =>
    rw [if_neg long]
    intro next
    right
    rw [length]
    exact Nat.le_of_not_lt long

/-- Without a press, a down sample begins one. -/
theorem knows_of_idle (idle : buttonAfter past = .idle) (rests : Rests seen past sample)
    (down : sample.down = true) : Knows (past ++ [sample]) sample.now false := by
  refine ⟨past, sample, [], rfl, ⟨down, rests, ?_⟩, rfl, ?_⟩
  · intro middle next rest shape
    cases middle <;> cases shape
  · refine iff_of_false Bool.false_ne_true ?_
    rintro ⟨middle, next, rest, shape, long⟩
    cases middle with
    | nil =>
      cases shape
      rw [List.append_nil, report, idle, down] at long
      cases long
    | cons head inner =>
      rcases List.cons.inj shape with ⟨_, impossible⟩
      cases inner <;> cases impossible

theorem rests_snoc (ordered : Ordered (past ++ [sample])) (up : sample.down = false)
    (rests : ∀ next, Rests seen past next) (next : Sample) :
    Rests seen (past ++ [sample]) next := by
  rcases rests sample with never | long
  · left
    exact List.forall_mem_append.mpr ⟨never, List.forall_mem_singleton.mpr up⟩
  · right
    have longer : debounceTime ≤ lasted past sample := long.trans (seen_le_lasted ordered)
    unfold lasted upFor at longer
    rw [seen_snoc, up, if_neg Bool.false_ne_true]
    split at longer
    · cases longer
    · next first begun =>
      rw [begun]
      exact longer

/-- Every sample keeps the account. -/
theorem matches_snoc (ordered : Ordered (past ++ [sample]))
    (matched : (buttonAfter past).Matches past) :
    (buttonAfter (past ++ [sample])).Matches (past ++ [sample]) := by
  have reports : report past sample = ((buttonAfter past).sample sample.now sample.down).2 := rfl
  rw [buttonAfter_snoc]
  cases button : buttonAfter past with
  | idle =>
    rw [button] at matched
    cases down : sample.down with
    | false => exact rests_snoc ordered down matched
    | true =>
      refine ⟨?_, knows_of_idle button (matched sample) down⟩
      rw [upSince?_snoc, down, if_pos rfl]
  | held time reported =>
    rw [button] at matched reports
    rcases matched with ⟨down', knows⟩
    cases down : sample.down with
    | false =>
      rw [down] at reports
      exact knows.matches_letGo down (by rw [down']; rfl) reports
    | true =>
      rw [down] at reports
      have bounce : seen past sample < debounceTime := by
        rw [seen_of_upSince?_eq_none down']
        decide
      exact knows.matches_hold down bounce reports
  | released time reported first =>
    rw [button] at matched reports
    rcases matched with ⟨begun, bounce, knows⟩
    cases down : sample.down with
    | false =>
      rw [down] at reports
      exact knows.matches_letGo down (by rw [begun]; rfl) reports
    | true =>
      rw [down] at reports
      exact knows.matches_hold down (bounce sample) reports

end

/-- The state of the button accounts for all samples before it. -/
theorem matches_buttonAfter {past : List Sample} (ordered : Ordered past) :
    (buttonAfter past).Matches past := by
  induction past using List.reverseRecOn with
  | nil => exact fun next => .inl fun _ impossible => (List.not_mem_nil impossible).elim
  | append_singleton front sample ih =>
    exact matches_snoc ordered (ih (List.pairwise_append.mp ordered).1)

/-! ## Long presses -/

section

variable {past : List Sample} {sample : Sample}

theorem Button.hold_reports_iff (time : Nat) (reported : Bool) (now : Nat) :
    (hold time reported now).2 = some .long ↔ reported = false ∧ longPressTime ≤ now - time := by
  unfold hold
  cases reported with
  | true => simp
  | false =>
    by_cases late : longPressTime ≤ now - time <;> simp [late]

theorem Button.not_long_of_up (button : Button) (now : Nat) :
    (button.sample now false).2 ≠ some .long := by
  have confirmed (time : Nat) (reported : Bool) (first : Nat) :
      (letGo time reported first now).2 ≠ some .long := by
    unfold letGo
    cases reported <;> split <;> simp
  cases button with
  | idle => exact Option.some_ne_none Press.long |>.symm
  | held time reported => exact confirmed time reported now
  | released time reported first => exact confirmed time reported first

/-- A sample of a press reports it as long if it has been held long enough and
was not reported before. -/
theorem Knows.report_iff {time : Nat} {reported : Bool} (knows : Knows past time reported)
    (down : sample.down = true) (bounce : seen past sample < debounceTime)
    (reports : report past sample = (Button.hold time reported sample.now).2) :
    report past sample = some .long ↔ LongAt seen past sample := by
  rcases knows with ⟨before, start, since, shape, press, begun, known⟩
  have due : report past sample = some .long ↔
      reported = false ∧ start.now + longPressTime ≤ sample.now := by
    rw [reports, Button.hold_reports_iff, ← begun]
    refine and_congr_right fun _ => ?_
    unfold longPressTime
    omega
  rw [due]
  constructor
  · rintro ⟨unreported, late⟩
    refine ⟨down, before, start, since, shape, ?_, late, ?_⟩
    · rw [InPress.snoc_iff, ← shape]
      exact ⟨press, fun _ => bounce⟩
    · rw [← known, unreported]
      exact Bool.false_ne_true
  · rintro ⟨_, before', start', since', shape', press', late, unreported⟩
    have same := press.unique (InPress.snoc_iff.mp press').1 (shape.symm.trans shape')
    rcases same with ⟨rfl, rfl, rfl⟩
    rw [← known] at unreported
    exact ⟨eq_false_of_ne_true unreported, late⟩

theorem report_iff_longAt (ordered : Ordered past) :
    report past sample = some .long ↔ LongAt seen past sample := by
  have matched := matches_buttonAfter ordered
  have reports : report past sample = ((buttonAfter past).sample sample.now sample.down).2 := rfl
  cases down : sample.down with
  | false =>
    -- An up sample reports no press as long.
    rw [down] at reports
    refine iff_of_false (reports ▸ Button.not_long_of_up _ _) fun long => ?_
    rw [long.1] at down
    cases down
  | true =>
    rw [down] at reports
    cases button : buttonAfter past with
    | idle =>
      rw [button] at matched reports
      refine iff_of_false (by rw [reports]; simp [Button.sample]) ?_
      rintro ⟨_, before, start, since, shape, press, _⟩
      rcases matched sample with never | long
      · have up := never start (shape ▸ List.mem_append_right _ List.mem_cons_self)
        rw [press.down] at up
        cases up
      · rw [shape] at long
        exact absurd ((InPress.snoc_iff.mp press).2 down) (Nat.not_lt.mpr long)
    | held time reported =>
      rw [button] at matched reports
      have bounce : seen past sample < debounceTime := by
        rw [seen_of_upSince?_eq_none matched.1]
        decide
      exact matched.2.report_iff down bounce reports
    | released time reported first =>
      rw [button] at matched reports
      exact matched.2.2.report_iff down (matched.2.1 sample) reports

/-- A release that is seen to be long ends the press. -/
theorem idle_of_seen (ordered : Ordered past) (long : debounceTime ≤ seen past sample) :
    buttonAfter past = .idle := by
  have matched := matches_buttonAfter ordered
  cases button : buttonAfter past with
  | idle => rfl
  | held time reported =>
    rw [button] at matched
    rw [seen_of_upSince?_eq_none matched.1] at long
    cases long
  | released time reported first =>
    rw [button] at matched
    exact absurd (matched.2.1 sample) (Nat.not_lt.mpr long)

/-- Every release that was long when the button was down again had been seen to
be long before. -/
def Watched (samples : List Sample) : Prop :=
  ∀ past next rest, samples = past ++ next :: rest -> next.down = true ->
    debounceTime ≤ lasted past next -> debounceTime ≤ seen past next

theorem watched_nil : Watched [] := by
  intro past next rest shape
  cases past <;> cases shape

theorem Watched.snoc (watched : Watched past)
    (last : sample.down = true -> debounceTime ≤ lasted past sample ->
      debounceTime ≤ seen past sample) : Watched (past ++ [sample]) := by
  intro front next rest shape down
  rcases split_snoc shape with ⟨same, empty⟩ | ⟨shorter, _, inside⟩
  · subst same empty
    rw [(List.append_inj' shape rfl).1] at last
    exact last down
  · exact watched front next shorter inside down

/-- Two measures find the same releases long. -/
def AgreeOn (samples : List Sample) (first second : ReleaseTime) : Prop :=
  ∀ past next rest, samples = past ++ next :: rest -> next.down = true ->
    (debounceTime ≤ first past next ↔ debounceTime ≤ second past next)

theorem AgreeOn.symm {samples : List Sample} {first second : ReleaseTime}
    (agree : AgreeOn samples first second) : AgreeOn samples second first :=
  fun past next rest shape down => (agree past next rest shape down).symm

theorem agreeOn_of_watched {samples : List Sample} (ordered : Ordered samples)
    (watched : Watched samples) : AgreeOn samples seen lasted := by
  intro past next rest shape down
  have front : Ordered (past ++ [next]) := by
    rw [shape, ← List.singleton_append, ← List.append_assoc] at ordered
    exact (List.pairwise_append.mp ordered).1
  exact ⟨fun long => long.trans (seen_le_lasted front), watched past next rest shape down⟩

theorem InPress.congr {first second : ReleaseTime} {before since : List Sample}
    {start : Sample} (agree : AgreeOn (before ++ start :: since) first second)
    (press : InPress first before start since) : InPress second before start since where
  down := press.down
  begins := press.begins.imp_right (agree before start since rfl press.down).mp
  held := by
    intro middle next rest shape down
    have same := agree (before ++ start :: middle) next rest (by rw [shape]; simp) down
    exact Nat.lt_of_not_le fun long =>
      absurd (press.held middle next rest shape down) (Nat.not_lt.mpr (same.mpr long))

theorem longAt_congr {first second : ReleaseTime} (agree : AgreeOn (past ++ [sample]) first second)
    (long : LongAt first past sample) : LongAt second past sample := by
  rcases long with ⟨down, before, start, since, shape, press, late, unreported⟩
  refine ⟨down, before, start, since, shape, press.congr ?_, late, unreported⟩
  rw [shape, List.append_assoc, List.cons_append] at agree
  exact agree

end

/-- Whenever samples come in the order of their times, a sample reports a long
press exactly if it finds the button down in a press that began at least the time
of a long press ago, was held since, and has not been reported.  A release does
not end the press unless the samples have seen it for the debounce time; one
that they have seen for so long always does.

If every long release is seen to be long before the button is down again, it
makes no difference that releases are measured from their first up sample to the
down sample behind them. -/
theorem long_press_iff_held {past : List Sample} {sample : Sample}
    (ordered : Ordered (past ++ [sample])) :
    (report past sample = some .long ↔ LongAt seen past sample) ∧
      (Watched (past ++ [sample]) ->
        (report past sample = some .long ↔ LongAt lasted past sample)) ∧
      (debounceTime ≤ seen past sample -> buttonAfter past = .idle) := by
  have earlier : Ordered past := (List.pairwise_append.mp ordered).1
  have law : report past sample = some .long ↔ LongAt seen past sample :=
    report_iff_longAt earlier
  refine ⟨law, fun watched => ?_, idle_of_seen earlier⟩
  have agree := agreeOn_of_watched ordered watched
  rw [law]
  exact ⟨longAt_congr agree, longAt_congr agree.symm⟩

/-- The contact bounces for less than the debounce time. -/
def bouncingPress : List Sample := [⟨0, true⟩, ⟨1000, false⟩, ⟨1040, false⟩, ⟨1045, true⟩]

/-- The button is let go for the debounce time. -/
def endedPress : List Sample := [⟨0, true⟩, ⟨2000, false⟩, ⟨2050, false⟩]

theorem bouncingPress_watched : Watched (bouncingPress ++ [⟨3000, true⟩]) := by
  have start : Watched ([] ++ [⟨0, true⟩]) := watched_nil.snoc (by decide)
  have release : Watched ([⟨0, true⟩] ++ [⟨1000, false⟩]) := start.snoc (by decide)
  have still : Watched ([⟨0, true⟩, ⟨1000, false⟩] ++ [⟨1040, false⟩]) := release.snoc (by decide)
  have again : Watched ([⟨0, true⟩, ⟨1000, false⟩, ⟨1040, false⟩] ++ [⟨1045, true⟩]) :=
    still.snoc (by decide)
  exact again.snoc (by decide)

theorem bouncingPress_is_long :
    Ordered (bouncingPress ++ [⟨3000, true⟩]) ∧ Watched (bouncingPress ++ [⟨3000, true⟩]) ∧
      LongAt seen bouncingPress ⟨3000, true⟩ ∧ LongAt lasted bouncingPress ⟨3000, true⟩ ∧
      Ordered (endedPress ++ [⟨2100, true⟩]) ∧ debounceTime ≤ seen endedPress ⟨2100, true⟩ ∧
      buttonAfter endedPress = .idle := by
  have ordered : Ordered (bouncingPress ++ [⟨3000, true⟩]) := by
    unfold Ordered
    decide
  have ordered' : Ordered (endedPress ++ [⟨2100, true⟩]) := by
    unfold Ordered
    decide
  have reported : report bouncingPress ⟨3000, true⟩ = some .long := by decide
  have bounce := long_press_iff_held ordered
  have ended := (long_press_iff_held ordered').2.2 (by decide)
  exact ⟨ordered, bouncingPress_watched, bounce.1.mp reported,
    (bounce.2.1 bouncingPress_watched).mp reported, ordered', by decide, ended⟩

/-- Nothing is sampled while the button is up, but for the moment of its
release. -/
def gappedPress : List Sample := [⟨0, true⟩, ⟨100, false⟩, ⟨1000, true⟩]

theorem gappedPress_survives_release :
    Ordered (gappedPress ++ [⟨3000, true⟩]) ∧
      lasted [⟨0, true⟩, ⟨100, false⟩] ⟨1000, true⟩ = 900 ∧
      report gappedPress ⟨3000, true⟩ = some .long ∧
      ¬ LongAt lasted gappedPress ⟨3000, true⟩ := by
  refine ⟨by unfold Ordered; decide, by decide, by decide, ?_⟩
  rintro ⟨_, before, start, since, shape, press, late, _⟩
  rcases before with _ | ⟨first, _ | ⟨second, _ | ⟨third, more⟩⟩⟩
  · -- The release lies in a press that began with the first sample.
    cases shape
    exact absurd (press.held [⟨100, false⟩] ⟨1000, true⟩ [⟨3000, true⟩] rfl rfl) (by decide)
  · cases shape
    cases press.down
  · cases shape
    exact absurd late (by decide)
  · have length := congrArg List.length shape
    rw [List.length_append, List.length_cons, List.length_cons, List.length_cons,
      List.length_cons] at length
    change 3 = _ at length
    omega

end Selector
end FlashSlots
