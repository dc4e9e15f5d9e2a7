import FlashSlots.Proofs.Selector.History

namespace FlashSlots

open Layout (SlotIndex)

/-!
# When triggers are sent

A trigger reboots the board, so that it matters which calls send one.  The
screen accounts for everything that was sent before.  In the menu, every slot
that was asked for has been left again, by a bootloader trigger or a fallback,
and the highlight is where the encoder has turned it since the menu was
entered.  On the other screens the last trigger asked for the slot that is
shown, and a slot that is shown as running has reported since.

`Accounts.after` says that no call breaks this account; everything else about
the triggers of a history is read off the account of the history before them.
-/

/-- The screen shows the menu. -/
def Screen.isMenu : Screen -> Bool
  | menu _ => true
  | committing _ => false
  | running _ => false

namespace Selector

/-! ## The latest visit of the menu -/

/-- The call leads from another screen to the menu. -/
def Step.entersMenu (step : Step) : Bool :=
  !step.before.screen.isMenu && step.after.screen.isMenu

/-- The number of the slot that was highlighted when the menu was entered last.
A new selector is in the menu, with the first slot highlighted. -/
def highlightAtEntry (past : List Step) : Nat :=
  ((past.reverse.find? Step.entersMenu).map fun step => step.after.screen.slot.val).getD 0

/-- The steps of the encoder over these calls. -/
def turned : List Step -> Int
  | [] => 0
  | step :: rest => step.call.ticks + turned rest

/-- The steps of the encoder since the menu was entered last. -/
def turnedSinceEntry (past : List Step) : Int :=
  turned (past.reverse.takeWhile fun step => !step.entersMenu)

theorem highlightAtEntry_snoc (past : List Step) (step : Step) :
    highlightAtEntry (past ++ [step]) =
      if step.entersMenu then step.after.screen.slot.val else highlightAtEntry past := by
  unfold highlightAtEntry
  rw [List.reverse_append, List.reverse_singleton, List.singleton_append, List.find?_cons]
  cases step.entersMenu <;> rfl

theorem turnedSinceEntry_snoc (past : List Step) (step : Step) :
    turnedSinceEntry (past ++ [step]) =
      if step.entersMenu then 0 else step.call.ticks + turnedSinceEntry past := by
  unfold turnedSinceEntry
  rw [List.reverse_append, List.reverse_singleton, List.singleton_append, List.takeWhile_cons]
  cases step.entersMenu <;> rfl

/-! ## What the screen accounts for -/

/-- The call gives the board back to the bootloader. -/
def Step.Releases (step : Step) : Prop :=
  .bootloader ∈ step.sent ∨ step.call = .bootFallback

/-- Every slot that was asked for has been left again. -/
def Released (past : List Step) : Prop :=
  ∀ front step back, past = front ++ step :: back -> ∀ slot, .slot slot ∈ step.sent ->
    ∃ later ∈ back, later.Releases

/-- The last trigger asked for the slot.  The calls since then sent nothing,
and none of them was a fallback. -/
structure AskedFor (past : List Step) (slot : SlotIndex) (since : List Step) : Prop where
  asked : ∃ front step, past = front ++ step :: since ∧ step.sent = [.slot slot]
  silent : ∀ later ∈ since, later.sent = []
  stayed : ∀ later ∈ since, later.call ≠ .bootFallback

/-- What the history before a screen must have been. -/
def Accounts (past : List Step) : Screen -> Prop
  | .menu highlighted =>
    (highlighted.val : Int) = (highlightAtEntry past + turnedSinceEntry past) % 8 ∧ Released past
  | .committing slot => ∃ since, AskedFor past slot since
  | .running slot =>
    ∃ since, AskedFor past slot since ∧ ∃ later ∈ since, later.call = .reconfigured slot

theorem split_snoc {α : Type} {past front back : List α} {last step : α}
    (shape : past ++ [last] = front ++ step :: back) :
    (step = last ∧ back = []) ∨ ∃ rest, back = rest ++ [last] ∧ past = front ++ step :: rest := by
  rcases back.eq_nil_or_concat with empty | ⟨rest, final, snoc⟩
  · subst empty
    have parts := List.append_inj' shape rfl
    exact .inl ⟨(List.cons.inj parts.2).1.symm, rfl⟩
  · subst snoc
    rw [List.concat_eq_append, ← List.cons_append, ← List.append_assoc] at shape
    rw [List.concat_eq_append]
    have parts := List.append_inj' shape rfl
    exact .inr ⟨rest, by rw [(List.cons.inj parts.2).1], parts.1⟩

section

variable {past since : List Step} {step : Step} {slot : SlotIndex}

theorem Released.snoc (released : Released past) (unasked : ∀ slot, .slot slot ∉ step.sent) :
    Released (past ++ [step]) := by
  intro front earlier back shape slot asked
  rcases split_snoc shape with ⟨same, _⟩ | ⟨rest, behind, before⟩
  · exact absurd (same ▸ asked) (unasked slot)
  · rcases released front earlier rest before slot asked with ⟨later, listed, releases⟩
    exact ⟨later, behind ▸ List.mem_append_left _ listed, releases⟩

theorem Step.Releases.released (releases : step.Releases) (unasked : ∀ slot, .slot slot ∉ step.sent)
    (past : List Step) : Released (past ++ [step]) := by
  intro front earlier back shape slot asked
  rcases split_snoc shape with ⟨same, _⟩ | ⟨rest, behind, _⟩
  · exact absurd (same ▸ asked) (unasked slot)
  · exact ⟨step, behind ▸ List.mem_append_right _ List.mem_cons_self, releases⟩

theorem AskedFor.now (asked : step.sent = [.slot slot]) (past : List Step) :
    AskedFor (past ++ [step]) slot [] where
  asked := ⟨past, step, rfl, asked⟩
  silent := fun _ impossible => (List.not_mem_nil impossible).elim
  stayed := fun _ impossible => (List.not_mem_nil impossible).elim

theorem AskedFor.snoc (before : AskedFor past slot since) (silent : step.sent = [])
    (stayed : step.call ≠ .bootFallback) :
    AskedFor (past ++ [step]) slot (since ++ [step]) where
  asked := by
    rcases before.asked with ⟨front, earlier, shape, asked⟩
    exact ⟨front, earlier, by rw [shape, List.append_assoc, List.cons_append], asked⟩
  silent := List.forall_mem_append.mpr ⟨before.silent, List.forall_mem_singleton.mpr silent⟩
  stayed := List.forall_mem_append.mpr ⟨before.stayed, List.forall_mem_singleton.mpr stayed⟩

/-- A call that sends nothing and stays on its screen keeps the account, if it
does not turn the highlight. -/
theorem Accounts.unchanged {screen : Screen} (accounts : Accounts past screen)
    (before : step.before.screen = screen) (after : step.after.screen = screen)
    (silent : step.sent = []) (stayed : step.call ≠ .bootFallback)
    (still : screen.isMenu = true -> step.call.ticks = 0) : Accounts (past ++ [step]) screen := by
  cases screen with
  | menu highlighted =>
    have inside : step.entersMenu = false := by simp [Step.entersMenu, before, Screen.isMenu]
    refine ⟨?_, accounts.2.snoc (by simp [silent])⟩
    rw [highlightAtEntry_snoc, turnedSinceEntry_snoc, inside, still rfl, accounts.1]
    simp
  | committing slot =>
    rcases accounts with ⟨since, asked⟩
    exact ⟨since ++ [step], asked.snoc silent stayed⟩
  | running slot =>
    rcases accounts with ⟨since, asked, later, listed, reported⟩
    exact ⟨since ++ [step], asked.snoc silent stayed, later, List.mem_append_left _ listed,
      reported⟩

/-- The account starts anew with a call that enters the menu. -/
theorem Accounts.of_entry {highlighted : SlotIndex} (after : step.after.screen = .menu highlighted)
    (entered : step.before.screen.isMenu = false) (releases : step.Releases)
    (unasked : ∀ slot, .slot slot ∉ step.sent) (past : List Step) :
    Accounts (past ++ [step]) (.menu highlighted) := by
  have enters : step.entersMenu = true := by
    rw [Step.entersMenu, entered, after]
    rfl
  refine ⟨?_, releases.released unasked past⟩
  rw [highlightAtEntry_snoc, turnedSinceEntry_snoc, enters, after, if_pos rfl, if_pos rfl,
    Int.add_zero]
  exact (Int.emod_eq_of_lt (Int.natCast_nonneg _) (Int.ofNat_lt.mpr highlighted.isLt)).symm

/-- The new screen accounts for the call and for everything before it. -/
theorem Accounts.after (accounts : Accounts past step.before.screen) :
    Accounts (past ++ [step]) step.after.screen := by
  have move := step.moves
  generalize before : step.before.screen = screen at accounts move
  generalize called : step.call = call at move
  generalize after : step.after.screen = next at move ⊢
  generalize emitted : step.sent = sent at move
  cases move with
  | turn =>
    have inside : step.entersMenu = false := by simp [Step.entersMenu, before, Screen.isMenu]
    refine ⟨?_, accounts.2.snoc (by simp [emitted])⟩
    rw [highlightAtEntry_snoc, turnedSinceEntry_snoc, inside, called, val_rotate, accounts.1,
      if_neg Bool.false_ne_true, if_neg Bool.false_ne_true, Int.add_comm (Call.ticks _),
      ← Int.add_assoc]
    exact Int.emod_add_emod _ _ _
  | commit => exact ⟨[], .now emitted past⟩
  | wait busy =>
    apply accounts.unchanged before after emitted
    · simp [called]
    · intro menu
      cases screen with
      | menu highlighted => exact absurd rfl (busy highlighted)
      | committing slot => cases menu
      | running slot => cases menu
  | leave =>
    exact .of_entry after (by simp [before, Screen.isMenu]) (.inl (by simp [emitted]))
      (by simp [emitted]) past
  | confirm =>
    rcases accounts with ⟨since, asked⟩
    exact ⟨since ++ [step], asked.snoc emitted (by simp [called]), step,
      List.mem_append_right _ List.mem_cons_self, called⟩
  | ignore other =>
    exact accounts.unchanged before after emitted (by simp [called]) (by simp [called, Call.ticks])
  | fallBack =>
    have unasked : ∀ slot, .slot slot ∉ step.sent := by simp [emitted]
    cases screen with
    | menu highlighted =>
      -- The menu stays open, and the highlight with it.
      have inside : step.entersMenu = false := by simp [Step.entersMenu, before, Screen.isMenu]
      refine ⟨?_, accounts.2.snoc unasked⟩
      rw [highlightAtEntry_snoc, turnedSinceEntry_snoc, inside, called]
      simpa [Screen.slot, Call.ticks] using accounts.1
    | committing slot =>
      exact .of_entry after (by simp [before, Screen.isMenu]) (.inr called) unasked past
    | running slot =>
      exact .of_entry after (by simp [before, Screen.isMenu]) (.inr called) unasked past
  | refresh =>
    exact accounts.unchanged before after emitted (by simp [called]) (by simp [called, Call.ticks])

end

/-- At every call of a history the screen accounts for the calls before it. -/
theorem accounts_before {calls : List (Flash.Image × Call)} {selector : Selector}
    {past front back : List Step} {step : Step} (accounts : Accounts past selector.screen)
    (shape : steps selector calls = front ++ step :: back) :
    Accounts (past ++ front) step.before.screen := by
  induction calls generalizing selector past front with
  | nil => exact absurd shape (List.append_ne_nil_of_right_ne_nil front (List.cons_ne_nil _ _)).symm
  | cons first rest ih =>
    cases front with
    | nil =>
      rw [List.append_nil, ← (List.cons.inj shape).1]
      exact accounts
    | cons earlier front =>
      rcases List.cons.inj shape with ⟨same, others⟩
      have before : Accounts past (⟨selector, first.1, first.2⟩ : Step).before.screen := accounts
      have next := ih before.after others
      rwa [same, List.append_assoc, List.singleton_append] at next

theorem accounts_new (image : Flash.Image) : Accounts [] (new image).screen := by
  refine ⟨rfl, ?_⟩
  intro front step back shape
  exact absurd shape (List.append_ne_nil_of_right_ne_nil front (List.cons_ne_nil _ _)).symm

/-! ## The triggers of a history -/

namespace Moves

variable {screen next : Screen} {call : Call} {sent : List Trigger}

theorem isPoll_of_sent (move : Moves screen call next sent) (some : sent ≠ []) : call.IsPoll := by
  cases move with
  | commit => trivial
  | leave => trivial
  | _ => exact absurd rfl some

theorem length_sent_le (move : Moves screen call next sent) : sent.length ≤ 1 := by
  cases move <;> simp

theorem slot_mem_iff (move : Moves screen call next sent) (slot : SlotIndex) :
    .slot slot ∈ sent ↔
      call.IsPoll ∧ (∃ highlighted, screen = .menu highlighted) ∧ next = .committing slot := by
  cases move with
  | wait busy =>
    refine iff_of_false List.not_mem_nil ?_
    rintro ⟨_, ⟨highlighted, menu⟩, _⟩
    exact busy highlighted menu
  | _ => simp [Call.IsPoll, eq_comm]

theorem eq_rotate_of_slot_mem {highlighted slot : SlotIndex}
    (move : Moves (.menu highlighted) call next sent) (asked : .slot slot ∈ sent) :
    slot = rotate highlighted call.ticks := by
  cases move with
  | commit => exact Trigger.slot.inj (List.mem_singleton.mp asked)
  | _ => exact absurd asked List.not_mem_nil

theorem bootloader_mem_iff (move : Moves screen call next sent) :
    .bootloader ∈ sent ↔
      call.IsPoll ∧ ∃ slot, screen = .running slot ∧ next = .menu slot := by
  cases move with
  | wait busy =>
    refine iff_of_false List.not_mem_nil ?_
    rintro ⟨_, slot, _, menu⟩
    exact busy slot menu
  | _ => simp [Call.IsPoll]

end Moves

/-- In every history only polls send triggers, and each of them one at most.

A slot is asked for exactly when a poll leads from the menu to the commitment
to it, and it is the slot to which the encoder has turned the highlight since
the menu was entered last, this poll included.  The bootloader is asked for
exactly when a poll leads from a running slot back to the menu.

So while a slot is shown as asked for or as running, the last trigger asked for
it, and there was no fallback since.  Between two triggers for slots there is a
trigger for the bootloader or a fallback.  A trigger for the bootloader follows
a trigger for the running slot, and the slot has reported in between. -/
theorem triggers_of_history (image : Flash.Image) (calls : List (Flash.Image × Call)) :
    ∀ front step back, steps (new image) calls = front ++ step :: back ->
      (step.sent.length ≤ 1 ∧ (step.sent ≠ [] -> step.call.IsPoll)) ∧
      (∀ slot, .slot slot ∈ step.sent ↔
        step.call.IsPoll ∧ (∃ highlighted, step.before.screen = .menu highlighted) ∧
          step.after.screen = .committing slot) ∧
      (∀ slot, .slot slot ∈ step.sent ->
        (slot.val : Int) =
          (highlightAtEntry front + (turnedSinceEntry front + step.call.ticks)) % 8) ∧
      (.bootloader ∈ step.sent ↔
        step.call.IsPoll ∧
          ∃ slot, step.before.screen = .running slot ∧ step.after.screen = .menu slot) ∧
      (∀ slot, step.after.screen = .committing slot ∨ step.after.screen = .running slot ->
        ∃ since, AskedFor (front ++ [step]) slot since) ∧
      (∀ slot, .slot slot ∈ step.sent ->
        ∀ earliest earlier between, front = earliest ++ earlier :: between ->
          ∀ other, .slot other ∈ earlier.sent ->
            ∃ later ∈ between, .bootloader ∈ later.sent ∨ later.call = .bootFallback) ∧
      (.bootloader ∈ step.sent -> ∃ slot since, step.before.screen = .running slot ∧
        AskedFor front slot since ∧ ∃ later ∈ since, later.call = .reconfigured slot) := by
  intro front step back shape
  have before := accounts_before (accounts_new image) shape
  rw [List.nil_append] at before
  have after := before.after
  have move := step.moves
  refine ⟨⟨move.length_sent_le, move.isPoll_of_sent⟩, move.slot_mem_iff, ?_,
    move.bootloader_mem_iff, ?_, ?_, ?_⟩
  · intro slot asked
    rcases (move.slot_mem_iff slot).mp asked with ⟨_, ⟨highlighted, menu⟩, _⟩
    rw [menu] at before move
    rw [move.eq_rotate_of_slot_mem asked, val_rotate, before.1, ← Int.add_assoc]
    exact Int.emod_add_emod _ _ _
  · rintro slot (committing | running)
    · rw [committing] at after
      exact after
    · rw [running] at after
      rcases after with ⟨since, asked, _⟩
      exact ⟨since, asked⟩
  · intro slot asked
    rcases (move.slot_mem_iff slot).mp asked with ⟨_, ⟨highlighted, menu⟩, _⟩
    rw [menu] at before
    exact before.2
  · intro asked
    rcases move.bootloader_mem_iff.mp asked with ⟨_, slot, running, _⟩
    rw [running] at before
    rcases before with ⟨since, asked, reported⟩
    exact ⟨slot, since, running, asked, reported⟩

/-- A short press that asks for a slot, its report, and a long press. -/
def presses : List (Flash.Image × Call) :=
  [(.erased, .poll 0 3 true), (.erased, .poll 100 (-1) false), (.erased, .poll 150 0 false),
    (.erased, .reconfigured ⟨2, by decide⟩), (.erased, .poll 200 0 true),
    (.erased, .poll 3200 0 true)]

theorem triggers_of_presses :
    (steps (new .erased) presses).flatMap Step.sent = [.slot ⟨2, by decide⟩, .bootloader] ∧
      ∃ since, AskedFor ((steps (new .erased) presses).take 5) ⟨2, by decide⟩ since ∧
        ∃ later ∈ since, later.call = .reconfigured ⟨2, by decide⟩ := by
  refine ⟨rfl, ?_⟩
  have shape : steps (new .erased) presses =
      (steps (new .erased) presses).take 5 ++
        (steps (new .erased) presses).get ⟨5, by decide⟩ :: [] := rfl
  rcases triggers_of_history .erased presses _ _ _ shape with ⟨_, _, _, _, _, _, left⟩
  rcases left (List.mem_singleton.mpr rfl) with ⟨slot, since, running, asked, reported⟩
  have same : ⟨2, by decide⟩ = slot := Screen.running.inj running
  rw [← same] at asked reported
  exact ⟨since, asked, reported⟩

end Selector
end FlashSlots
