import FlashSlots.Flash.Image
import FlashSlots.Manifest.Flash

namespace FlashSlots
namespace Selector

open Layout (SlotIndex)

/-!
# The boot menu

The menu shows one entry for every user slot.  A slot with a valid manifest is
shown under the manifest's name, every other one under a placeholder.
-/

structure Entry where
  slot : SlotIndex
  name : String
  manifest : Option Manifest
  deriving DecidableEq

/-- The manifest of a slot, if it has a valid one. -/
def slotManifest? (image : Flash.Image) (slot : SlotIndex) : Option Manifest :=
  (Manifest.readFlash
    (image.read (Layout.manifestAddress slot).toNat Layout.manifestSize)).toOption

def entry (image : Flash.Image) (slot : SlotIndex) : Entry :=
  let manifest := slotManifest? image slot
  ⟨slot, (manifest.map Manifest.name).getD Manifest.unknownName, manifest⟩

/-- Read the entries of all slots. -/
def readEntries (image : Flash.Image) : List Entry := SlotIndex.all.map (entry image)

/-- The slot that lies this many steps on, around the circle. -/
def rotate (slot : SlotIndex) (ticks : Int) : SlotIndex :=
  ⟨(((slot.val : Int) + ticks) % (Layout.slotCount : Int)).toNat, by
    have positive : (0 : Int) < Layout.slotCount := by decide
    have below := Int.emod_lt_of_pos ((slot.val : Int) + ticks) positive
    have above := Int.emod_nonneg ((slot.val : Int) + ticks) (Int.ne_of_gt positive)
    omega⟩

theorem val_rotate (slot : SlotIndex) (ticks : Int) :
    ((rotate slot ticks).val : Int) = (slot.val + ticks) % (Layout.slotCount : Int) :=
  Int.toNat_of_nonneg (Int.emod_nonneg _ (by decide))

end Selector
end FlashSlots
