import FlashSlots.Word

namespace FlashSlots
namespace Layout

/-!
# Flash address map

The chip is divided into slots of one mebibyte.  The bootloader owns the
first one and eight user slots follow it; what is left of the chip is unused.

* a slot starts with its bitstream,
* firmware of a user slot starts at a fixed offset behind the bitstream,
* the last page of a slot holds its manifest.

Flash is erased in pages, so a write affects every page that it touches.
`pageSpan?` is that range of pages.  It has no value where the rounded end
leaves the 32-bit range.
-/

/-- The unit of erasure, in bytes. -/
def pageSize : Nat := 1024

/-- Size of the region that holds a manifest. -/
def manifestSize : Nat := 1024

def slotSize : Nat := 0x100000

/-- Size of the whole chip. -/
def flashSize : Nat := 0x1000000

def slotCount : Nat := 8

/-- Offset of the firmware in a user slot. -/
def firmwareOffset : Nat := 0xC0000

/-- The number of a user slot. -/
abbrev SlotIndex := Fin slotCount

namespace SlotIndex

/-- The slot with this number, if there is one. -/
def ofNat? (n : Nat) : Option SlotIndex :=
  if inside : n < slotCount then some ⟨n, inside⟩ else none

/-- Every user slot, in order. -/
def all : List SlotIndex := List.finRange slotCount

theorem mem_all (slot : SlotIndex) : slot ∈ all := List.mem_finRange slot

end SlotIndex

/-- First address of a user slot, where its bitstream starts. -/
def bitstreamAddress (slot : SlotIndex) : UInt32 :=
  UInt32.ofNat (slotSize + slot.val * slotSize)

/-- First address for the firmware of a user slot. -/
def firmwareBase (slot : SlotIndex) : UInt32 :=
  UInt32.ofNat (slotSize + slot.val * slotSize + firmwareOffset)

/-- The last page of a user slot. -/
def manifestAddress (slot : SlotIndex) : UInt32 :=
  UInt32.ofNat (slotSize + slot.val * slotSize + slotSize - manifestSize)

/-- The first page boundary at or below `address`. -/
def alignDown (address : UInt32) : UInt32 :=
  UInt32.ofNat (address.toNat / pageSize * pageSize)

/-- The first page boundary at or above `address`, if it is a word. -/
def alignUp? (address : UInt32) : Option UInt32 :=
  Word.ofNat? ((address.toNat + (pageSize - 1)) / pageSize * pageSize)

/-- A half-open range of addresses. -/
structure Span where
  start : UInt32
  stop : UInt32
  deriving DecidableEq

namespace Span

/-- An address lies in the range. -/
def Contains (span : Span) (address : Nat) : Prop :=
  span.start.toNat ≤ address ∧ address < span.stop.toNat

instance (span : Span) (address : Nat) : Decidable (span.Contains address) :=
  inferInstanceAs (Decidable (_ ∧ _))

/-- The two ranges cross, as intervals: each starts before the other stops.
An empty range that stands inside another one crosses it. -/
def crosses (first second : Span) : Bool :=
  decide (first.start < second.stop) && decide (second.start < first.stop)

end Span

/-- The pages touched by `length` bytes written at `address`. -/
def pageSpan? (address length : UInt32) : Option Span := do
  let last ← Word.add? address length
  let stop ← alignUp? last
  return ⟨alignDown address, stop⟩

/-- Where a build goes: the bootloader slot or one of the user slots. -/
inductive Target where
  | bootloader
  | user (slot : SlotIndex)
  deriving DecidableEq

namespace Target

/-- First address of the slot. -/
def base : Target -> UInt32
  | bootloader => 0
  | user slot => Layout.bitstreamAddress slot

/-- First address behind the slot. -/
def stop (target : Target) : UInt32 :=
  UInt32.ofNat (target.base.toNat + slotSize)

/-- A bitstream stands at the start of its slot. -/
def bitstreamAddress (target : Target) : UInt32 := target.base

/-- A manifest stands in the last page of its slot. -/
def manifestAddress (target : Target) : UInt32 :=
  UInt32.ofNat (target.base.toNat + slotSize - manifestSize)

/-- The range starts and stops inside the slot. -/
def contains (target : Target) (span : Span) : Bool :=
  decide (target.base ≤ span.start) && decide (span.stop ≤ target.stop)

/-- The name of the slot in messages. -/
def describe : Target -> String
  | bootloader => "bootloader slot"
  | user slot => "slot " ++ toString slot.val

/-- Every slot, the bootloader first. -/
def all : List Target := bootloader :: SlotIndex.all.map user

end Target

/-! ## The address operations on natural numbers -/

theorem toNat_alignDown (address : UInt32) :
    (alignDown address).toNat = address.toNat / pageSize * pageSize := by
  have bounded := Word.toNat_lt_limit address
  apply Word.toNat_ofNat
  have := Nat.div_mul_le_self address.toNat pageSize
  omega

theorem alignUp?_eq_some_iff {address up : UInt32} :
    alignUp? address = some up ↔
      up.toNat = (address.toNat + (pageSize - 1)) / pageSize * pageSize :=
  Word.ofNat?_eq_some_iff

theorem alignUp?_eq_none_iff {address : UInt32} :
    alignUp? address = none ↔ Word.limit - pageSize < address.toNat := by
  have bounded := Word.toNat_lt_limit address
  unfold alignUp?
  rw [Word.ofNat?_eq_none_iff]
  simp only [pageSize, Word.limit] at bounded ⊢
  omega

theorem toNat_bitstreamAddress (slot : SlotIndex) :
    (bitstreamAddress slot).toNat = (slot.val + 1) * slotSize := by
  have bounded := slot.isLt
  unfold bitstreamAddress
  rw [Word.toNat_ofNat, Nat.succ_mul, Nat.add_comm]
  simp only [slotCount, slotSize, Word.limit] at bounded ⊢
  omega

theorem toNat_firmwareBase (slot : SlotIndex) :
    (firmwareBase slot).toNat = (slot.val + 1) * slotSize + firmwareOffset := by
  have bounded := slot.isLt
  unfold firmwareBase
  rw [Word.toNat_ofNat, Nat.succ_mul, Nat.add_comm slotSize]
  simp only [slotCount, slotSize, firmwareOffset, Word.limit] at bounded ⊢
  omega

theorem Target.toNat_base (target : Target) :
    target.base.toNat = match target with
      | .bootloader => 0
      | .user slot => (slot.val + 1) * slotSize := by
  cases target with
  | bootloader => rfl
  | user slot => exact toNat_bitstreamAddress slot

theorem Target.toNat_stop (target : Target) :
    target.stop.toNat = target.base.toNat + slotSize := by
  apply Word.toNat_ofNat
  rw [target.toNat_base]
  cases target with
  | bootloader => decide
  | user slot =>
    have bounded := slot.isLt
    simp only [slotCount, slotSize, Word.limit] at bounded ⊢
    omega

theorem Target.toNat_manifestAddress (target : Target) :
    target.manifestAddress.toNat = target.base.toNat + slotSize - manifestSize := by
  apply Word.toNat_ofNat
  rw [target.toNat_base]
  cases target with
  | bootloader => decide
  | user slot =>
    have bounded := slot.isLt
    simp only [slotCount, slotSize, manifestSize, Word.limit] at bounded ⊢
    omega

/-- Every slot ends on the chip. -/
theorem Target.stop_le_flashSize (target : Target) : target.stop.toNat ≤ flashSize := by
  rw [target.toNat_stop, target.toNat_base]
  cases target with
  | bootloader => decide
  | user slot =>
    have bounded := slot.isLt
    simp only [slotCount, slotSize, flashSize] at bounded ⊢
    omega

/-- Slots start on page boundaries. -/
theorem Target.base_dvd (target : Target) : ∃ pages, target.base.toNat = pages * pageSize := by
  rw [target.toNat_base]
  cases target with
  | bootloader => exact ⟨0, rfl⟩
  | user slot => exact ⟨(slot.val + 1) * pageSize, (Nat.mul_assoc _ pageSize pageSize).symm⟩

/-- An address lies in one slot at most. -/
theorem Target.eq_of_inside {first second : Target} {address : Nat}
    (inFirst : first.base.toNat ≤ address ∧ address < first.stop.toNat)
    (inSecond : second.base.toNat ≤ address ∧ address < second.stop.toNat) : first = second := by
  rw [first.toNat_stop, first.toNat_base] at inFirst
  rw [second.toNat_stop, second.toNat_base] at inSecond
  simp only [slotSize] at inFirst inSecond
  cases first with
  | bootloader =>
    cases second with
    | bootloader => rfl
    | user slot =>
      dsimp only at inFirst inSecond
      omega
  | user slot =>
    cases second with
    | bootloader =>
      dsimp only at inFirst inSecond
      omega
    | user other =>
      dsimp only at inFirst inSecond
      have same : slot.val = other.val := by omega
      exact congrArg Target.user (Fin.ext same)

/-- The manifest of a slot stands where the boot menu looks for it. -/
theorem manifestAddress_eq (slot : SlotIndex) :
    manifestAddress slot = (Target.user slot).manifestAddress := by
  have base := toNat_bitstreamAddress slot
  rw [manifestAddress, Target.manifestAddress, Target.base, base, Nat.succ_mul,
    Nat.add_comm slotSize]

end Layout
end FlashSlots
