import Mathlib
import FlashSlots.Proofs.Manifest.RoundTrip
import FlashSlots.Proofs.Package.Guarantees
import FlashSlots.Selector.Basic

namespace FlashSlots

open Layout (SlotIndex Target)
open Flash (Image erasedByte)
open Flash.Image (pageStart pageStop)

/-!
# From a build to the boot menu

A plan that packaging accepts can be programmed into any chip, and afterwards
every payload stands in its place: no other write of the plan erases its pages.
The last page of the slot holds the manifest and nothing else, so that the boot
menu finds the very manifest of the plan there.  Nothing outside the slot
changes, and with it no other entry of the menu.
-/

namespace Layout

/-- The manifest of another slot lies outside this one. -/
theorem manifestPage_outside {target : Target} {slot : SlotIndex} (other : target ≠ .user slot)
    {index : Nat} (within : index < manifestSize) :
    ¬ (target.base.toNat ≤ (manifestAddress slot).toNat + index ∧
      (manifestAddress slot).toNat + index < target.stop.toNat) := by
  intro inside
  apply other
  apply Target.eq_of_inside inside
  rw [manifestAddress_eq, Target.toNat_manifestAddress, Target.toNat_stop]
  simp only [slotSize, manifestSize] at within ⊢
  omega

end Layout

namespace Package

/-- A manifest takes up the whole last page of its slot. -/
theorem touches_manifestPage (target : Target) (manifest : Manifest) {index : Nat}
    (within : index < Layout.manifestSize) :
    (manifestOp target manifest).Touches (target.manifestAddress.toNat + index) := by
  have positive := manifest.size_toJson_pos
  have address := target.toNat_manifestAddress
  rcases target.base_dvd with ⟨pages, aligned⟩
  unfold WriteOp.Touches manifestOp pageStop pageStart
  simp only [Layout.manifestSize, Layout.slotSize, Layout.pageSize] at within address aligned ⊢
  omega

/-! ## A programmed plan -/

section

variable {target : Target} {build : Build} {plan : WritePlan}
  (packaged : package target build = .ok plan)

include packaged

/-- A plan can be programmed into any chip. -/
theorem programAll_of_package (image : Image) :
    ∃ flashed, image.programAll plan.ops = .ok flashed :=
  Image.programAll_ok (fun op member => (inSlot_of_package packaged op member).1) image

variable {image flashed : Image} (done : image.programAll plan.ops = .ok flashed)

include done

theorem get_of_touches {op : WriteOp} (listed : op ∈ plan.ops) {address : Nat}
    (inside : address < Layout.flashSize) (touched : op.Touches address) :
    flashed.get address inside = op.contents address := by
  apply Image.get_programAll_of_touched done inside listed touched
  intro other member touches
  rw [eq_of_touches packaged member listed touches touched]

theorem get_outside {address : Nat} (inside : address < Layout.flashSize)
    (outside : ¬ (target.base.toNat ≤ address ∧ address < target.stop.toNat)) :
    flashed.get address inside = image.get address inside := by
  apply Image.get_programAll_of_untouched done inside
  intro op member touched
  exact outside ((inSlot_of_package packaged op member).of_touches touched)

/-- Every payload stands at its address. -/
theorem read_payload {op : WriteOp} (listed : op ∈ plan.ops) :
    flashed.read op.address.toNat op.payload.size = op.payload := by
  have onChip := (inSlot_of_package packaged op listed).1
  apply Image.read_eq
  intro index within
  have inside : op.address.toNat + index < Layout.flashSize :=
    Nat.lt_of_lt_of_le (Nat.add_lt_add_left within _) onChip
  rw [Image.octetAt, dif_pos inside,
    get_of_touches packaged done listed inside (op.touches_of_payload within),
    op.contents_of_payload within]

theorem read_placed {op : WriteOp} (listed : op ∈ plan.ops) {address : UInt32} {bytes : ByteArray}
    (placed : op.address = address) (carried : op.payload = bytes) :
    flashed.read address.toNat bytes.size = bytes := by
  subst placed carried
  exact read_payload packaged done listed

/-- The last page of the slot holds the document of the manifest and is erased
behind it. -/
theorem read_manifestPage :
    flashed.read target.manifestAddress.toNat Layout.manifestSize =
      plan.manifest.toJson ++
        Octets.fill erasedByte (Layout.manifestSize - plan.manifest.toJson.size) := by
  rcases ops_of_package packaged with ⟨firmwareOps, order, _⟩
  have listed : manifestOp target plan.manifest ∈ plan.ops := by
    rw [order]
    simp
  have fits := size_toJson_of_package packaged
  apply ByteArray.ext_getElem
  · rw [Image.size_read, ByteArray.size_append, Octets.size_fill]
    omega
  · intro index left right
    have within : index < Layout.manifestSize := by rwa [Image.size_read] at left
    have touched := touches_manifestPage target plan.manifest within
    have inside := Nat.lt_of_lt_of_le
      ((inSlot_of_package packaged _ listed).of_touches touched).2 target.stop_le_flashSize
    rw [Image.getElem_read, Image.octetAt, dif_pos inside,
      get_of_touches packaged done listed inside touched]
    by_cases front : index < plan.manifest.toJson.size
    · rw [ByteArray.getElem_append_left front]
      exact (manifestOp target plan.manifest).contents_of_payload front
    · rw [ByteArray.getElem_append_right (Nat.le_of_not_lt front), Octets.getElem_fill]
      apply WriteOp.contents_of_behind
      exact Nat.add_le_add_left (Nat.le_of_not_lt front) _

/-- The manifest of the plan is read back from flash. -/
theorem readFlash_manifestPage :
    Manifest.readFlash (flashed.read target.manifestAddress.toNat Layout.manifestSize) =
      .ok plan.manifest := by
  rw [read_manifestPage packaged done, Manifest.readFlash_toJson,
    if_pos (stamped_of_package packaged)]

end

end Package

/-! ## The menu over a programmed plan -/

namespace Selector

/-- The selector shows a menu that has just been read from the image: it was
started, it was told to read the manifests again, or it came back from a slot
that did not boot or was left by a long press. -/
inductive OpensMenu (image : Image) : Selector -> Prop where
  | started : OpensMenu image (new image)
  | refreshed (selector : Selector) : OpensMenu image (selector.refresh image)
  | fellBack (selector : Selector) : OpensMenu image (selector.bootFallback image)
  | left (selector : Selector) (now : Nat) (ticks : Int) (down : Bool)
      {slot highlighted : SlotIndex}
      (running : selector.screen = .running slot)
      (shown : (selector.poll image now ticks down).1.screen = .menu highlighted) :
      OpensMenu image (selector.poll image now ticks down).1

theorem entries_of_opensMenu {image : Image} {selector : Selector}
    (opened : OpensMenu image selector) : selector.entries = readEntries image := by
  cases opened with
  | started => rfl
  | refreshed selector => rfl
  | fellBack selector => rfl
  | left selector now ticks down running shown =>
    revert shown
    unfold poll
    dsimp only
    rw [running]
    split
    · next impossible _ => cases impossible
    · next impossible _ => cases impossible
    · next press =>
      intro _
      rfl
    · intro shown
      cases shown

theorem slotManifest?_congr {first second : Image} {slot : SlotIndex}
    (same : ∀ index < Layout.manifestSize,
      first.octetAt ((Layout.manifestAddress slot).toNat + index) =
        second.octetAt ((Layout.manifestAddress slot).toNat + index)) :
    slotManifest? first slot = slotManifest? second slot := by
  rw [slotManifest?, slotManifest?, Image.read_congr same]

theorem manifest_entry (image : Image) (slot : SlotIndex) :
    (entry image slot).manifest = slotManifest? image slot := by
  simp only [entry]

theorem entry_congr {first second : Image} {slot : SlotIndex}
    (same : slotManifest? first slot = slotManifest? second slot) :
    entry first slot = entry second slot := by
  rw [entry, entry, same]

end Selector

namespace Package

section

variable {target : Target} {build : Build} {plan : WritePlan}
  (packaged : package target build = .ok plan) {image flashed : Image}
  (done : image.programAll plan.ops = .ok flashed)

include packaged done

theorem octetAt_outside {address : Nat}
    (outside : ¬ (target.base.toNat ≤ address ∧ address < target.stop.toNat)) :
    flashed.octetAt address = image.octetAt address := by
  unfold Image.octetAt
  split
  · next inside => exact get_outside packaged done inside outside
  · rfl

/-- The slot of the plan is shown with its manifest, every other one as before. -/
theorem entry_flashed (slot : SlotIndex) :
    Selector.entry flashed slot =
      if target = .user slot then ⟨slot, plan.manifest.name, some plan.manifest⟩
      else Selector.entry image slot := by
  split
  · next same =>
    have found : Selector.slotManifest? flashed slot = some plan.manifest := by
      have read := readFlash_manifestPage packaged done
      rw [same] at read
      rw [Selector.slotManifest?, Layout.manifestAddress_eq, read]
      rfl
    rw [Selector.entry, found]
    rfl
  · next other =>
    apply Selector.entry_congr
    apply Selector.slotManifest?_congr
    intro index within
    exact octetAt_outside packaged done (Layout.manifestPage_outside other within)

/-- Every region of the plan has its artifact at its flash address. -/
theorem read_region {region : Region} (listed : region ∈ plan.manifest.regions) :
    ∃ artifact address, Build.artifact? build.firmware region.filename = some artifact ∧
      region.flashAddress = some address ∧ artifact.bytes.size = region.size.toNat ∧
      flashed.read address.toNat region.size.toNat = artifact.bytes := by
  rcases ops_of_package packaged with ⟨firmwareOps, order, carried⟩
  rcases exists_write carried listed with ⟨op, member, artifact, chosen, size, address, shape⟩
  have planned : op ∈ plan.ops := by
    rw [order]
    exact List.mem_cons_of_mem _ (List.mem_append_left _ member)
  have payload : op.payload = artifact.bytes := congrArg WriteOp.payload shape
  have stands := read_placed packaged done planned rfl payload
  rw [size] at stands
  exact ⟨artifact, op.address, chosen, address, size, stands⟩

theorem read_bitstream :
    flashed.read target.bitstreamAddress.toNat build.bitstream.size = build.bitstream := by
  rcases ops_of_package packaged with ⟨firmwareOps, order, _⟩
  have planned : bitstreamOp target build.bitstream ∈ plan.ops := by
    rw [order]
    exact List.mem_cons_self
  exact read_placed packaged done planned rfl rfl

end

/-- Programming a plan succeeds on every chip.  Afterwards nothing outside the
slot has changed, every artifact and the bitstream stand in their places, and
the manifest of the plan is read back from the slot.  A menu that is read from
the chip shows that manifest for the slot of the plan and the old entries for
all other slots. -/
theorem flashed_plan_in_menu {target : Target} {build : Build} {plan : WritePlan}
    (packaged : package target build = .ok plan) (image : Image) :
    ∃ flashed, image.programAll plan.ops = .ok flashed ∧
      (∀ address (inside : address < Layout.flashSize),
        ¬ (target.base.toNat ≤ address ∧ address < target.stop.toNat) ->
          flashed.get address inside = image.get address inside) ∧
      (∀ region ∈ plan.manifest.regions, ∃ artifact address,
        Build.artifact? build.firmware region.filename = some artifact ∧
        region.flashAddress = some address ∧ artifact.bytes.size = region.size.toNat ∧
        flashed.read address.toNat region.size.toNat = artifact.bytes) ∧
      flashed.read target.bitstreamAddress.toNat build.bitstream.size = build.bitstream ∧
      Manifest.readFlash (flashed.read target.manifestAddress.toNat Layout.manifestSize) =
        .ok plan.manifest ∧
      ∀ selector, Selector.OpensMenu flashed selector ->
        selector.entries = (Selector.readEntries image).map fun entry =>
          if target = .user entry.slot then
            ⟨entry.slot, plan.manifest.name, some plan.manifest⟩
          else entry := by
  rcases programAll_of_package packaged image with ⟨flashed, done⟩
  refine ⟨flashed, done, ?_, ?_, read_bitstream packaged done,
    readFlash_manifestPage packaged done, ?_⟩
  · intro address inside outside
    exact get_outside packaged done inside outside
  · intro region listed
    exact read_region packaged done listed
  · intro selector opened
    rw [Selector.entries_of_opensMenu opened, Selector.readEntries, Selector.readEntries,
      List.map_map]
    apply List.map_congr_left
    intro slot _
    exact entry_flashed packaged done slot

/-- A build with one region that is copied to PSRAM. -/
def tinyBuild : Build where
  bitstream := ⟨#[1, 2, 3, 4]⟩
  firmware := [⟨"fw.bin", ⟨#[7, 8, 9]⟩⟩]
  manifest := ⟨"DSP", none, none, none, none, none, [⟨"fw.bin", 3, .resident 0x200000, none⟩]⟩

/-- The plan of this build for the second user slot. -/
def tinyPlan : WritePlan :=
  proposal (.user ⟨1, by decide⟩) tinyBuild
    [⟨"fw.bin", 3, .resident 0x200000, some 0x2C0000⟩]
    [⟨"fw.bin", .raw, 0x2C0000, ⟨#[7, 8, 9]⟩⟩]

set_option maxRecDepth 2000 in
theorem firstOverlap?_tinyPlan : firstOverlap? (withPages tinyPlan.ops) = none := by
  cbv

theorem package_tinyBuild : package (.user ⟨1, by decide⟩) tinyBuild = .ok tinyPlan := by
  have overlaps : checkOverlaps tinyPlan.ops = .ok () := by
    rw [checkOverlaps, firstOverlap?_tinyPlan]
  exact package_of_checks rfl (by cbv) (by cbv) overlaps

theorem tinyPlan_in_menu :
    package (.user ⟨1, by decide⟩) tinyBuild = .ok tinyPlan ∧
      ∃ flashed, Image.erased.programAll tinyPlan.ops = .ok flashed ∧
        flashed.read 0x200000 4 = ⟨#[1, 2, 3, 4]⟩ ∧
        (Selector.new flashed).entries.map Selector.Entry.name =
          ((Selector.readEntries Image.erased).map Selector.Entry.name).set 1 "DSP" := by
  refine ⟨package_tinyBuild, ?_⟩
  rcases flashed_plan_in_menu package_tinyBuild Image.erased with
    ⟨flashed, done, _, _, bitstream, _, menu⟩
  refine ⟨flashed, done, bitstream, ?_⟩
  rw [menu (Selector.new flashed) .started]
  rfl

end Package
end FlashSlots
