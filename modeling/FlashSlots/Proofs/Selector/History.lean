import FlashSlots.Selector.Basic

namespace FlashSlots

open Layout (SlotIndex)

namespace Selector

/-!
# Histories of the boot selector

A history is a series of calls in any order, each with its own arguments and
with the contents that flash has when the call is made.

`Moves` is the state diagram of the selector.  It leaves the button and the
entries out: a poll may commit, leave the slot or do neither, and what a press
is has no part in it.  `Step.moves` says that every call follows the diagram,
and whatever is proved about the triggers is proved from the diagram.
-/

/-- What can be done to a selector. -/
inductive Call where
  | poll (now : Nat) (ticks : Int) (down : Bool)
  | reconfigured (slot : SlotIndex)
  | bootFallback
  | refresh

namespace Call

def IsPoll : Call -> Prop
  | poll _ _ _ => True
  | _ => False

/-- The steps of the encoder that a call brings. -/
def ticks : Call -> Int
  | poll _ ticks _ => ticks
  | _ => 0

end Call

/-- A call of a history, with the selector that takes it. -/
structure Step where
  before : Selector
  image : Flash.Image
  call : Call

namespace Step

/-- The selector after the call, and the triggers that it has sent. -/
def outcome (step : Step) : Selector × List Trigger :=
  match step.call with
  | .poll now ticks down =>
    let (after, sent) := step.before.poll step.image now ticks down
    (after, sent.toList)
  | .reconfigured slot => (step.before.reconfigured slot, [])
  | .bootFallback => (step.before.bootFallback step.image, [])
  | .refresh => (step.before.refresh step.image, [])

def after (step : Step) : Selector := step.outcome.1

def sent (step : Step) : List Trigger := step.outcome.2

end Step

/-- The steps of a history. -/
def steps : Selector -> List (Flash.Image × Call) -> List Step
  | _, [] => []
  | selector, (image, call) :: rest =>
    let step : Step := ⟨selector, image, call⟩
    step :: steps step.after rest

/-! ## The state diagram -/

/-- A screen, a call, the screen after it and the triggers that are sent. -/
inductive Moves : Screen -> Call -> Screen -> List Trigger -> Prop
  | turn {highlighted : SlotIndex} {now : Nat} {ticks : Int} {down : Bool} :
      Moves (.menu highlighted) (.poll now ticks down) (.menu (rotate highlighted ticks)) []
  | commit {highlighted : SlotIndex} {now : Nat} {ticks : Int} {down : Bool} :
      Moves (.menu highlighted) (.poll now ticks down) (.committing (rotate highlighted ticks))
        [.slot (rotate highlighted ticks)]
  | wait {screen : Screen} {now : Nat} {ticks : Int} {down : Bool}
      (busy : ∀ highlighted, screen ≠ .menu highlighted) :
      Moves screen (.poll now ticks down) screen []
  | leave {slot : SlotIndex} {now : Nat} {ticks : Int} {down : Bool} :
      Moves (.running slot) (.poll now ticks down) (.menu slot) [.bootloader]
  | confirm {slot : SlotIndex} :
      Moves (.committing slot) (.reconfigured slot) (.running slot) []
  | ignore {screen : Screen} {slot : SlotIndex} (other : screen ≠ .committing slot) :
      Moves screen (.reconfigured slot) screen []
  | fallBack {screen : Screen} : Moves screen .bootFallback (.menu screen.slot) []
  | refresh {screen : Screen} : Moves screen .refresh screen []

theorem moves_poll (selector : Selector) (image : Flash.Image) (now : Nat) (ticks : Int)
    (down : Bool) :
    Moves selector.screen (.poll now ticks down) (selector.poll image now ticks down).1.screen
      (selector.poll image now ticks down).2.toList := by
  unfold poll
  dsimp only
  cases screen : selector.screen with
  | menu highlighted =>
    cases (selector.button.sample now down).2 with
    | none => exact .turn
    | some press =>
      cases press with
      | short => exact .commit
      | long => exact .turn
  | committing slot =>
    have stays : Moves (.committing slot) (.poll now ticks down) (.committing slot) [] :=
      .wait (by simp)
    cases (selector.button.sample now down).2 with
    | none => exact stays
    | some press => exact stays
  | running slot =>
    have stays : Moves (.running slot) (.poll now ticks down) (.running slot) [] :=
      .wait (by simp)
    cases (selector.button.sample now down).2 with
    | none => exact stays
    | some press =>
      cases press with
      | short => exact stays
      | long => exact .leave

theorem moves_reconfigured (selector : Selector) (slot : SlotIndex) :
    Moves selector.screen (.reconfigured slot) (selector.reconfigured slot).screen [] := by
  unfold reconfigured
  split
  · next asked =>
    rw [asked]
    exact .confirm
  · next other => exact .ignore other

/-- Every call follows the diagram. -/
theorem Step.moves (step : Step) :
    Moves step.before.screen step.call step.after.screen step.sent := by
  rcases step with ⟨before, image, call⟩
  cases call with
  | poll now ticks down => exact moves_poll before image now ticks down
  | reconfigured slot => exact moves_reconfigured before slot
  | bootFallback => exact .fallBack
  | refresh => exact .refresh

end Selector
end FlashSlots
