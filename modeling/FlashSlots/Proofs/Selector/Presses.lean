import FlashSlots.Proofs.Selector.Holding

namespace FlashSlots
namespace Selector

/-!
# One report for every press

A press has one report to make, and once it has made it nothing is due any
more.  `Button.sample_balance` is the account of a sample: what is reported and
what is still due afterwards is what was due before, and one report more if the
sample begins a press.  A trigger takes a report, and no other call than a poll
touches the button, so that the account holds for whole histories of the
selector, whatever is called in between.

The second part of the module reads a press off the samples alone, as the
theory of long presses does.
-/

namespace Button

/-- How many reports the press has still to make. -/
def due : Button -> Nat
  | idle => 0
  | held _ reported => (!reported).toNat
  | released _ reported _ => (!reported).toNat

/-- A sample begins a press: it shows the button down, and there was no press. -/
def begins (button : Button) (down : Bool) : Bool := decide (button = idle) && down

theorem hold_balance (since : Nat) (reported : Bool) (now : Nat) :
    (hold since reported now).2.toList.length + (hold since reported now).1.due =
      (!reported).toNat := by
  unfold hold
  cases reported with
  | true => rfl
  | false => split <;> rfl

theorem letGo_balance (since : Nat) (reported : Bool) (upSince now : Nat) :
    (letGo since reported upSince now).2.toList.length + (letGo since reported upSince now).1.due =
      (!reported).toNat := by
  unfold letGo
  split
  · exact Nat.zero_add _
  · cases reported <;> rfl

/-- What is reported, and what is due afterwards, was due before or comes from
the press that begins. -/
theorem sample_balance (button : Button) (now : Nat) (down : Bool) :
    (button.sample now down).2.toList.length + (button.sample now down).1.due =
      button.due + (button.begins down).toNat := by
  cases button with
  | idle => cases down <;> rfl
  | held since reported =>
    cases down with
    | true => exact hold_balance since reported now
    | false => exact letGo_balance since reported now now
  | released since reported upSince =>
    cases down with
    | true => exact hold_balance since reported now
    | false => exact letGo_balance since reported upSince now

theorem begins_iff {button : Button} {down : Bool} :
    button.begins down = true ↔ button = idle ∧ down = true := by
  rw [begins, Bool.and_eq_true, decide_eq_true_eq]

/-- A sample that begins a press reports nothing. -/
theorem report_of_begins {button : Button} {down : Bool} (begun : button.begins down = true)
    (now : Nat) : (button.sample now down).2 = none := by
  rcases begins_iff.mp begun with ⟨rfl, rfl⟩
  rfl

theorem due_le_one (button : Button) : button.due ≤ 1 := by
  cases button with
  | idle => exact Nat.zero_le _
  | held since reported => exact Bool.toNat_le _
  | released since reported upSince => exact Bool.toNat_le _

/-- Nothing is due behind a report. -/
theorem due_of_reported {button : Button} {now : Nat} {down : Bool} {press : Press}
    (reported : (button.sample now down).2 = some press) : (button.sample now down).1.due = 0 := by
  have balance := button.sample_balance now down
  have bounded := button.due_le_one
  have continues : button.begins down = false := by
    refine eq_false_of_ne_true fun begun => ?_
    rw [report_of_begins begun] at reported
    cases reported
  rw [reported, continues, Option.toList_some, List.length_singleton, Bool.toNat_false] at balance
  omega

end Button

/-! ## Histories of the selector -/

/-- The sample that a call takes. -/
def Call.sample? : Call -> Option Sample
  | .poll now _ down => some ⟨now, down⟩
  | _ => none

/-- The press that sends a trigger: a short one asks for a slot, a long one for
the bootloader. -/
def pressFor : Trigger -> Press
  | .slot _ => .short
  | .bootloader => .long

namespace Step

/-- What the button reports in a call. -/
def press? (step : Step) : Option Press :=
  step.call.sample?.bind fun sample => (step.before.button.sample sample.now sample.down).2

/-- The call begins a press. -/
def beginsPress (step : Step) : Bool :=
  match step.call.sample? with
  | some sample => step.before.button.begins sample.down
  | none => false

end Step

/-- The samples that these calls take. -/
def samples (past : List Step) : List Sample := past.filterMap fun step => step.call.sample?

section

variable {step : Step}

/-- Only a sample changes the button. -/
theorem Step.button_after (step : Step) :
    step.after.button = match step.call.sample? with
      | some sample => (step.before.button.sample sample.now sample.down).1
      | none => step.before.button := by
  rcases step with ⟨before, image, call⟩
  cases call with
  | poll now ticks down =>
    change (before.poll image now ticks down).1.button = (before.button.sample now down).1
    unfold poll
    dsimp only
    split <;> rfl
  | reconfigured slot =>
    change (before.reconfigured slot).button = before.button
    unfold reconfigured
    split <;> rfl
  | bootFallback => rfl
  | refresh => rfl

/-- A trigger is only sent when the button reports its press. -/
theorem Step.press?_of_sent {trigger : Trigger} (sent : trigger ∈ step.sent) :
    step.press? = some (pressFor trigger) := by
  rcases step with ⟨before, image, call⟩
  cases call with
  | poll now ticks down =>
    change trigger ∈ (before.poll image now ticks down).2.toList at sent
    change (before.button.sample now down).2 = _
    unfold poll at sent
    dsimp only at sent
    split at sent
    · next reported =>
      rw [reported, List.mem_singleton.mp sent, pressFor]
    · cases sent
    · next reported =>
      rw [reported, List.mem_singleton.mp sent, pressFor]
    · cases sent
  | reconfigured slot => cases sent
  | bootFallback => cases sent
  | refresh => cases sent

theorem Step.length_sent_le (step : Step) : step.sent.length ≤ step.press?.toList.length := by
  cases sent : step.sent with
  | nil => exact Nat.zero_le _
  | cons trigger others =>
    have one := step.moves.length_sent_le
    have listed : trigger ∈ step.sent := sent ▸ List.mem_cons_self
    rw [Step.press?_of_sent listed, ← sent]
    exact one

/-- A call sends no more than what is due or begins with it. -/
theorem Step.sent_balance (step : Step) :
    step.sent.length + step.after.button.due ≤
      step.before.button.due + step.beginsPress.toNat := by
  have sent := step.length_sent_le
  have button := step.button_after
  unfold press? at sent
  unfold beginsPress
  cases sampled : step.call.sample? with
  | none =>
    rw [sampled] at sent button
    rw [button]
    exact Nat.add_comm _ _ ▸ Nat.add_le_add_left sent _
  | some sample =>
    rw [sampled] at sent button
    have balance := step.before.button.sample_balance sample.now sample.down
    rw [← balance, button]
    exact Nat.add_le_add_right sent _

/-- The press of a trigger has made its report. -/
theorem Step.due_of_sent {trigger : Trigger} (sent : trigger ∈ step.sent) :
    step.after.button.due = 0 := by
  have reported := press?_of_sent sent
  rcases Option.bind_eq_some_iff.mp reported with ⟨sample, sampled, reported⟩
  rw [step.button_after, sampled]
  exact Button.due_of_reported reported

/-- A call that sends a trigger begins no press. -/
theorem Step.beginsPress_of_sent {trigger : Trigger} (sent : trigger ∈ step.sent) :
    step.beginsPress = false := by
  rcases Option.bind_eq_some_iff.mp (press?_of_sent sent) with ⟨sample, sampled, reported⟩
  rw [beginsPress, sampled]
  refine eq_false_of_ne_true fun begun => ?_
  rw [Button.report_of_begins begun] at reported
  cases reported

theorem samples_snoc (past : List Step) (step : Step) :
    samples (past ++ [step]) = samples past ++ step.call.sample?.toList := by
  rw [samples, List.filterMap_append]
  cases sampled : step.call.sample? <;> simp [samples, sampled]

/-- Every call keeps the button in the state that the samples have left. -/
theorem Step.button_snoc {past : List Step}
    (button : step.before.button = buttonAfter (samples past)) :
    step.after.button = buttonAfter (samples (past ++ [step])) := by
  rw [step.button_after, samples_snoc, button]
  cases step.call.sample? with
  | none =>
    rw [Option.toList_none, List.append_nil]
  | some sample =>
    rw [Option.toList_some, buttonAfter_snoc]

end

section

variable {selector : Selector} {calls : List (Flash.Image × Call)} {front back : List Step}
  {step : Step}

/-- Up to any call of a history, there are no more triggers than what was due at
its start and presses that have begun since. -/
theorem length_sent_le_begun (shape : steps selector calls = front ++ back) :
    (front.flatMap Step.sent).length ≤ selector.button.due + front.countP Step.beginsPress := by
  induction calls generalizing selector front with
  | nil =>
    rw [(List.append_eq_nil_iff.mp shape.symm).1]
    exact Nat.zero_le _
  | cons call rest ih =>
    cases front with
    | nil => exact Nat.zero_le _
    | cons first others =>
      rcases List.cons.inj shape with ⟨same, behind⟩
      have later := ih behind
      have balance := first.sent_balance
      rw [same] at later
      have here : first.before = selector := same ▸ rfl
      have one : (if first.beginsPress = true then 1 else 0) = first.beginsPress.toNat := by
        cases first.beginsPress <;> rfl
      rw [here] at balance
      rw [List.flatMap_cons, List.length_append, List.countP_cons, one]
      omega

/-- What follows a call is the history of the selector that it leaves. -/
theorem steps_behind (shape : steps selector calls = front ++ step :: back) :
    ∃ rest, steps step.after rest = back := by
  induction calls generalizing selector front with
  | nil => exact absurd shape (List.append_ne_nil_of_right_ne_nil front (List.cons_ne_nil _ _)).symm
  | cons call rest ih =>
    cases front with
    | nil =>
      rcases List.cons.inj shape with ⟨same, behind⟩
      exact ⟨rest, same ▸ behind⟩
    | cons first others => exact ih (List.cons.inj shape).2

/-- The button is in the state that the samples so far have left. -/
theorem button_before {past : List Step} (button : selector.button = buttonAfter (samples past))
    (shape : steps selector calls = front ++ step :: back) :
    step.before.button = buttonAfter (samples (past ++ front)) := by
  induction calls generalizing selector past front with
  | nil => exact absurd shape (List.append_ne_nil_of_right_ne_nil front (List.cons_ne_nil _ _)).symm
  | cons call rest ih =>
    cases front with
    | nil =>
      rw [← (List.cons.inj shape).1, List.append_nil]
      exact button
    | cons first others =>
      rcases List.cons.inj shape with ⟨same, behind⟩
      rw [List.append_cons]
      refine ih ?_ behind
      rw [same]
      exact Step.button_snoc (same ▸ button)

/-- A long press that has led back to the menu makes no further report, so that
a trigger behind it comes from a press that began later. -/
theorem exists_beginsPress {leave commit : Step} {between : List Step} {trigger : Trigger}
    (shape : steps selector calls = front ++ leave :: (between ++ commit :: back))
    (left : .bootloader ∈ leave.sent) (sent : trigger ∈ commit.sent) :
    ∃ step ∈ between, step.beginsPress = true := by
  rcases steps_behind shape with ⟨rest, behind⟩
  have done := leave.due_of_sent left
  have account : ((between ++ [commit]).flatMap Step.sent).length ≤
      leave.after.button.due + (between ++ [commit]).countP Step.beginsPress :=
    length_sent_le_begun (behind.trans (List.append_cons ..))
  rw [done, Nat.zero_add, List.flatMap_append, List.length_append, List.countP_append,
    List.flatMap_singleton, List.countP_singleton, commit.beginsPress_of_sent sent] at account
  have one := List.length_pos_of_mem sent
  have begun : 0 < between.countP Step.beginsPress := by
    simp only [Bool.false_eq_true, if_false] at account
    omega
  exact List.countP_pos_iff.mp begun

end

/-! ## Presses in the samples -/

/-- What is reported at these samples. -/
def reports (past : List Sample) : List Sample -> List Press
  | [] => []
  | sample :: rest => (report past sample).toList ++ reports (past ++ [sample]) rest

/-- The sample confirms the release of a press that has not been reported: it
shows the button up, and the first up sample of the release is the debounce time
ago. -/
structure ShortAt (past : List Sample) (sample : Sample) : Prop where
  up : sample.down = false
  confirms : ∃ first, upSince? past = some first ∧ first + debounceTime ≤ sample.now
  unconfirmed : seen past sample < debounceTime
  unreported : ∃ before start since, past = before ++ start :: since ∧
    InPress seen before start since ∧ ¬ Reported before start since

theorem reports_snoc (past samples : List Sample) (sample : Sample) :
    reports past (samples ++ [sample]) =
      reports past samples ++ (report (past ++ samples) sample).toList := by
  induction samples generalizing past with
  | nil => simp only [reports, List.nil_append, List.append_nil]
  | cons first rest ih =>
    rw [List.cons_append, reports, reports, ih, List.append_assoc, List.append_assoc,
      List.singleton_append]

section

variable {before since past : List Sample} {start sample : Sample}

/-- Without a press the button rests, and with one it does not. -/
theorem idle_iff_rests (ordered : Ordered past) (next : Sample) :
    buttonAfter past = .idle ↔ Rests seen past next := by
  have matched := matches_buttonAfter ordered
  constructor
  · intro idle
    rw [idle] at matched
    exact matched next
  · rintro (never | long)
    · have unknown {time : Nat} {reported : Bool} : ¬ Knows past time reported := by
        rintro ⟨before, start, since, shape, press, -⟩
        have up := never start (shape ▸ List.mem_append_right _ List.mem_cons_self)
        rw [press.down] at up
        cases up
      cases button : buttonAfter past with
      | idle => rfl
      | held time reported =>
        rw [button] at matched
        exact absurd matched.2 unknown
      | released time reported first =>
        rw [button] at matched
        exact absurd matched.2.2 unknown
    · exact idle_of_seen ordered long

/-- The button does not rest in a press that has not been released. -/
theorem InPress.not_rests {release : ReleaseTime} (press : InPress release before start since)
    (bounce : release (before ++ start :: since) sample < debounceTime) :
    ¬ Rests release (before ++ start :: since) sample := by
  rintro (never | long)
  · have up := never start (List.mem_append_right _ List.mem_cons_self)
    rw [press.down] at up
    cases up
  · exact absurd bounce (Nat.not_lt.mpr long)

/-- A sample within a press does not begin another one. -/
theorem InPress.not_begins (ordered : Ordered (before ++ start :: since))
    (press : InPress seen before start (since ++ [sample])) :
    (buttonAfter (before ++ start :: since)).begins sample.down = false := by
  refine eq_false_of_ne_true fun begun => ?_
  rcases Button.begins_iff.mp begun with ⟨idle, down⟩
  rcases InPress.snoc_iff.mp press with ⟨inside, bounce⟩
  exact inside.not_rests (bounce down) ((idle_iff_rests ordered sample).mp idle)

/-- The one report of a press is made or due. -/
theorem InPress.reports_balance (ordered : Ordered (before ++ start :: since))
    (press : InPress seen before start since) :
    (reports before (start :: since)).length +
      (buttonAfter (before ++ start :: since)).due = 1 := by
  induction since using List.reverseRecOn with
  | nil =>
    have earlier : Ordered before := (List.pairwise_append.mp ordered).1
    have idle := (idle_iff_rests earlier start).mpr press.begins
    have begun : (buttonAfter before).begins start.down = true :=
      Button.begins_iff.mpr ⟨idle, press.down⟩
    have balance := (buttonAfter before).sample_balance start.now start.down
    rw [begun, idle, Button.due] at balance
    rw [reports, reports, List.append_nil, buttonAfter_snoc, report, idle]
    exact balance
  | append_singleton since sample ih =>
    rw [← List.cons_append, ← List.append_assoc] at ordered
    have earlier : Ordered (before ++ start :: since) := (List.pairwise_append.mp ordered).1
    have inside := ih earlier (InPress.snoc_iff.mp press).1
    have balance := (buttonAfter (before ++ start :: since)).sample_balance sample.now sample.down
    rw [press.not_begins earlier, Bool.toNat_false, Nat.add_zero] at balance
    rw [← List.cons_append, ← List.append_assoc, reports_snoc, buttonAfter_snoc,
      List.length_append, Nat.add_assoc, report, balance]
    exact inside

theorem Button.hold_ne_short (time : Nat) (reported : Bool) (now : Nat) :
    (hold time reported now).2 ≠ some .short := by
  unfold hold
  split <;> simp

theorem Button.letGo_short_iff {time : Nat} {reported : Bool} {first now : Nat} :
    (letGo time reported first now).2 = some .short ↔
      reported = false ∧ first + debounceTime ≤ now := by
  unfold letGo debounceTime
  split
  · next early => simp; omega
  · next late => cases reported <;> simp; omega

/-- A short press is over when it is reported. -/
theorem Button.idle_of_short {button : Button} {now : Nat} {down : Bool}
    (short : (button.sample now down).2 = some .short) : (button.sample now down).1 = idle := by
  have confirmed {time : Nat} {reported : Bool} {first : Nat}
      (short : (letGo time reported first now).2 = some .short) :
      (letGo time reported first now).1 = idle := by
    unfold letGo at short ⊢
    split at short
    · cases short
    · next late => rw [if_neg late]
  cases button with
  | idle => cases down <;> cases short
  | held time reported =>
    cases down with
    | true => exact absurd short (hold_ne_short time reported now)
    | false => exact confirmed short
  | released time reported first =>
    cases down with
    | true => exact absurd short (hold_ne_short time reported now)
    | false => exact confirmed short

/-- A short press is reported exactly when the release of a press is confirmed
that was not reported as long. -/
theorem report_iff_shortAt (ordered : Ordered past) :
    report past sample = some .short ↔ ShortAt past sample := by
  have matched := matches_buttonAfter ordered
  rw [report]
  cases down : sample.down with
  | true =>
    refine iff_of_false ?_ fun short => ?_
    · cases buttonAfter past with
      | idle =>
        intro reports
        cases reports
      | held time reported => exact Button.hold_ne_short time reported sample.now
      | released time reported first => exact Button.hold_ne_short time reported sample.now
    · rw [short.up] at down
      cases down
  | false =>
    cases button : buttonAfter past with
    | idle =>
      refine iff_of_false (fun reports => ?_) fun short => ?_
      · cases reports
      · rcases short.unreported with ⟨before, start, since, rfl, press, -⟩
        exact press.not_rests short.unconfirmed ((idle_iff_rests ordered sample).mp button)
    | held time reported =>
      rw [button] at matched
      refine iff_of_false (fun reports => ?_) fun short => ?_
      · -- The release has only just begun.
        rcases Button.letGo_short_iff.mp reports with ⟨-, late⟩
        unfold debounceTime at late
        omega
      · rcases short.confirms with ⟨first, begun, -⟩
        rw [matched.1] at begun
        cases begun
    | released time reported first =>
      rw [button] at matched
      rcases matched with ⟨begun, bounce, before, start, since, shape, press, -, known⟩
      rw [Button.sample, Button.letGo_short_iff]
      constructor
      · rintro ⟨unreported, late⟩
        refine ⟨down, ⟨first, begun, late⟩, bounce sample, before, start, since, shape, press, ?_⟩
        rw [← known, unreported]
        exact Bool.false_ne_true
      · intro short
        rcases short.confirms with ⟨first', begun', late⟩
        rcases short.unreported with ⟨before', start', since', shape', press', unreported⟩
        rcases press.unique press' (shape.symm.trans shape') with ⟨rfl, rfl, rfl⟩
        cases begun.symm.trans begun'
        rw [← known] at unreported
        exact ⟨eq_false_of_ne_true unreported, late⟩

end

/-- Whether a call begins a press can be told from the samples before it. -/
theorem beginsPress_iff_rests {image : Flash.Image} {calls : List (Flash.Image × Call)}
    {front back : List Step} {step : Step} (shape : steps (new image) calls = front ++ step :: back)
    (ordered : Ordered (samples front)) :
    step.beginsPress = true ↔ ∃ sample, step.call.sample? = some sample ∧ sample.down = true ∧
      Rests seen (samples front) sample := by
  have button : step.before.button = buttonAfter (samples ([] ++ front)) := button_before rfl shape
  rw [List.nil_append] at button
  unfold Step.beginsPress
  cases step.call.sample? with
  | none => simp
  | some sample =>
    rw [button]
    dsimp only
    rw [Button.begins_iff, idle_iff_rests ordered sample]
    simp [and_comm]

/-! ## One report -/

/-- In samples that come in the order of their times, a press makes one report
at most, and exactly one if it has ended.  A short press is reported at the up
sample that confirms the release of a press that was not reported before, which
ends the press.

In every history of the selector there are no more triggers than presses that
have begun, and between the trigger of a long press and the next trigger another
press begins, so that nothing is sent when the long press is released.  Which
calls begin a press can be told from their samples, if these come in the order of
their times. -/
theorem one_report_per_press (image : Flash.Image) (calls : List (Flash.Image × Call)) :
    (∀ before start since, Ordered (before ++ start :: since) ->
      InPress seen before start since ->
        (reports before (start :: since)).length ≤ 1 ∧
          ∀ next, debounceTime ≤ seen (before ++ start :: since) next ->
            (reports before (start :: since)).length = 1) ∧
    (∀ past sample, Ordered (past ++ [sample]) ->
      (report past sample = some .short ↔ ShortAt past sample) ∧
        (report past sample = some .short -> ∀ next, Rests seen (past ++ [sample]) next)) ∧
    (∀ front back, steps (new image) calls = front ++ back ->
      (front.flatMap Step.sent).length ≤ front.countP Step.beginsPress) ∧
    (∀ front leave between commit back trigger,
      steps (new image) calls = front ++ leave :: (between ++ commit :: back) ->
        .bootloader ∈ leave.sent -> trigger ∈ commit.sent ->
          ∃ step ∈ between, step.beginsPress = true) ∧
    ∀ front step back, steps (new image) calls = front ++ step :: back ->
      Ordered (samples front) ->
        (step.beginsPress = true ↔
          ∃ sample, step.call.sample? = some sample ∧ sample.down = true ∧
            Rests seen (samples front) sample) := by
  refine ⟨?_, ?_, ?_, ?_, ?_⟩
  · intro before start since ordered press
    have balance := press.reports_balance ordered
    refine ⟨by omega, fun next long => ?_⟩
    rw [idle_of_seen ordered long] at balance
    exact balance
  · intro past sample ordered
    refine ⟨report_iff_shortAt (List.pairwise_append.mp ordered).1, fun short next => ?_⟩
    rw [← idle_iff_rests ordered, buttonAfter_snoc]
    exact Button.idle_of_short short
  · intro front back shape
    have account := length_sent_le_begun shape
    rwa [show (new image).button.due = 0 from rfl, Nat.zero_add] at account
  · intro front leave between commit back trigger shape left sent
    exact exists_beginsPress shape left sent
  · intro front step back shape ordered
    exact beginsPress_iff_rests shape ordered

/-- A press with a bounce in it, but for its first and its last sample. -/
def bouncedPress : List Sample := [⟨1000, false⟩, ⟨1040, false⟩, ⟨1045, true⟩, ⟨1100, false⟩]

/-- The long press that leads back to the menu is released, and a short press
follows. -/
def laterPress : List (Flash.Image × Call) :=
  presses ++ [(.erased, .poll 3300 0 false), (.erased, .poll 3400 0 false),
    (.erased, .poll 3500 0 true), (.erased, .poll 3600 0 false), (.erased, .poll 3650 0 false)]

theorem bouncedPress_inPress :
    InPress seen [] ⟨0, true⟩ (bouncedPress ++ [⟨1150, false⟩]) := by
  have start : InPress seen [] ⟨0, true⟩ [] := by
    refine ⟨rfl, .inl nofun, ?_⟩
    intro middle next rest shape
    cases middle <;> cases shape
  have up : InPress seen [] ⟨0, true⟩ ([] ++ [⟨1000, false⟩]) :=
    InPress.snoc_iff.mpr ⟨start, by decide⟩
  have still : InPress seen [] ⟨0, true⟩ ([⟨1000, false⟩] ++ [⟨1040, false⟩]) :=
    InPress.snoc_iff.mpr ⟨up, by decide⟩
  have bounced : InPress seen [] ⟨0, true⟩ ([⟨1000, false⟩, ⟨1040, false⟩] ++ [⟨1045, true⟩]) :=
    InPress.snoc_iff.mpr ⟨still, by decide⟩
  have released : InPress seen [] ⟨0, true⟩
      ([⟨1000, false⟩, ⟨1040, false⟩, ⟨1045, true⟩] ++ [⟨1100, false⟩]) :=
    InPress.snoc_iff.mpr ⟨bounced, by decide⟩
  exact InPress.snoc_iff.mpr ⟨released, by decide⟩

theorem bouncedPress_reported_once :
    Ordered ([] ++ ⟨0, true⟩ :: (bouncedPress ++ [⟨1150, false⟩])) ∧
      InPress seen [] ⟨0, true⟩ (bouncedPress ++ [⟨1150, false⟩]) ∧
      (reports [] (⟨0, true⟩ :: (bouncedPress ++ [⟨1150, false⟩]))).length = 1 ∧
      ShortAt (⟨0, true⟩ :: bouncedPress) ⟨1150, false⟩ ∧
      (steps (new .erased) laterPress).flatMap Step.sent =
        [.slot ⟨2, by decide⟩, .bootloader, .slot ⟨2, by decide⟩] ∧
      3 ≤ (steps (new .erased) laterPress).countP Step.beginsPress ∧
      ∃ step ∈ ((steps (new .erased) laterPress).drop 6).take 4, step.beginsPress = true := by
  have ordered : Ordered ([] ++ ⟨0, true⟩ :: (bouncedPress ++ [⟨1150, false⟩])) := by
    unfold Ordered
    decide
  have sent : (steps (new .erased) laterPress).flatMap Step.sent =
      [.slot ⟨2, by decide⟩, .bootloader, .slot ⟨2, by decide⟩] := rfl
  have shape : steps (new .erased) laterPress =
      (steps (new .erased) laterPress).take 5 ++
        (steps (new .erased) laterPress).get ⟨5, by decide⟩ ::
          (((steps (new .erased) laterPress).drop 6).take 4 ++
            (steps (new .erased) laterPress).get ⟨10, by decide⟩ :: []) := rfl
  rcases one_report_per_press .erased laterPress with ⟨once, shorts, counted, between, _⟩
  have counts := counted _ [] (List.append_nil _).symm
  rw [sent] at counts
  exact ⟨ordered, bouncedPress_inPress,
    (once _ _ _ ordered bouncedPress_inPress).2 ⟨1200, false⟩ (by decide),
    (shorts _ _ ordered).1.mp (by decide), sent, counts,
    between _ _ _ _ _ _ shape (List.mem_singleton.mpr rfl) (List.mem_singleton.mpr rfl)⟩

end Selector
end FlashSlots
