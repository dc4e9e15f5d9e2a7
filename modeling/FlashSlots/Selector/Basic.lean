import FlashSlots.Selector.Button
import FlashSlots.Selector.Menu
import FlashSlots.Trigger

namespace FlashSlots

open Layout (SlotIndex)

/-!
# The boot selector

The selector runs on the board.  In the menu the encoder moves the highlight,
and a short press asks for the highlighted slot.  Once that slot reports that
it runs, a long press asks for the bootloader again and leads back to the menu.
If the slot does not come up, the bootloader starts anew and the menu is shown
without any request.

Manifests are read when the menu is entered, so that the entries may be older
than what flash holds.
-/

/-- What the board shows. -/
inductive Screen where
  | menu (highlighted : SlotIndex)
  /-- A slot has been asked for. -/
  | committing (slot : SlotIndex)
  /-- A slot runs. -/
  | running (slot : SlotIndex)
  deriving DecidableEq

namespace Screen

/-- The slot that the screen is about. -/
def slot : Screen -> SlotIndex
  | menu highlighted => highlighted
  | committing slot => slot
  | running slot => slot

end Screen

structure Selector where
  screen : Screen
  entries : List Selector.Entry
  button : Selector.Button
  deriving DecidableEq

namespace Selector

/-- The selector after power-up. -/
def new (image : Flash.Image) : Selector :=
  ⟨.menu ⟨0, by decide⟩, Selector.readEntries image, .idle⟩

/-- Read the manifests again. -/
def refresh (selector : Selector) (image : Flash.Image) : Selector :=
  { selector with entries := Selector.readEntries image }

/-- Show the menu.  The button is left alone: a long press that led here must
not count as a press in the menu. -/
def enterMenu (selector : Selector) (image : Flash.Image) (highlighted : SlotIndex) : Selector :=
  { selector with screen := .menu highlighted, entries := Selector.readEntries image }

/-- Take a sample of the encoder, with the steps since the last one.  What is
sent, if anything, stands next to the new state. -/
def poll (selector : Selector) (image : Flash.Image) (now : Nat) (ticks : Int) (down : Bool) :
    Selector × Option Trigger :=
  let (button, press) := selector.button.sample now down
  let sampled := { selector with button := button }
  match selector.screen, press with
  | .menu highlighted, some .short =>
    let chosen := rotate highlighted ticks
    ({ sampled with screen := .committing chosen }, some (.slot chosen))
  | .menu highlighted, _ => ({ sampled with screen := .menu (rotate highlighted ticks) }, none)
  | .running slot, some .long => (sampled.enterMenu image slot, some .bootloader)
  | _, _ => (sampled, none)

/-- A slot reports that it runs.  Only the slot that was asked for counts. -/
def reconfigured (selector : Selector) (slot : SlotIndex) : Selector :=
  if selector.screen = .committing slot then { selector with screen := .running slot }
  else selector

/-- The bootloader came up again. -/
def bootFallback (selector : Selector) (image : Flash.Image) : Selector :=
  selector.enterMenu image selector.screen.slot

end Selector
end FlashSlots
