import Mathlib
import FlashSlots.Proofs.Package.Capacity

namespace FlashSlots

open Layout (Target)
open Flash.Image (pageStart pageStop)

/-!
# What a plan contains

A plan is determined by the build and the slot, write by write: the bitstream,
each region of the template with the first artifact of its name, and the
manifest.  In the bootloader slot every region stays where the template puts
it.  In a user slot each region starts at the page boundary behind the one
before it, and its address is entered in the manifest; nothing else in the
manifest changes, except for the stamp.
-/

/-! ## The first artifact of a name -/

/-- Of the artifacts with this name, this is the first one. -/
def Artifact.IsFirst (artifact : Artifact) (filename : String) (firmware : List Artifact) : Prop :=
  artifact.filename = filename ∧ ∃ front back, firmware = front ++ artifact :: back ∧
    ∀ other ∈ front, other.filename ≠ filename

theorem Build.artifact?_eq_some_iff {firmware : List Artifact} {filename : String}
    {artifact : Artifact} :
    Build.artifact? firmware filename = some artifact ↔ artifact.IsFirst filename firmware := by
  rw [Build.artifact?, List.find?_eq_some_iff_append, beq_iff_eq, Artifact.IsFirst]
  simp only [Bool.not_eq_eq_eq_not, Bool.not_true, beq_eq_false_iff_ne]

namespace Package

/-! ## The writes of the regions -/

/-- The write has the name of the region and the octets of its artifact. -/
structure Writes (firmware : List Artifact) (region : Region) (op : WriteOp) : Prop where
  named : op.region = region.filename
  raw : op.kind = .raw
  carries : ∃ artifact : Artifact, artifact.IsFirst region.filename firmware ∧
    op.payload = artifact.bytes
  whole : op.payload.size = region.size.toNat

/-- The region with the address of its write. -/
def addressed (region : Region) (op : WriteOp) : Region :=
  { region with flashAddress := some op.address }

/-- The second write starts at the page boundary behind the first. -/
def Follows (first second : WriteOp) : Prop :=
  ∃ range, first.range? = some range ∧ Layout.alignUp? range.stop = some second.address

section

variable {target : Target} {firmware : List Artifact} {regions placed : List Region}
  {ops : List WriteOp}

theorem placeRegions_writes {cursor : Option UInt32}
    (found : placeRegions target firmware cursor regions = .ok (placed, ops)) :
    List.Forall₂ (Writes firmware) regions ops ∧ placed = List.zipWith addressed regions ops := by
  induction regions generalizing cursor placed ops with
  | nil =>
    cases found
    exact ⟨.nil, rfl⟩
  | cons region rest ih =>
    simp only [placeRegions, bind_eq_ok_iff] at found
    rcases found with
      ⟨artifact, chosen, ⟨address, next⟩, assigned, ⟨others, otherOps⟩, behind, same⟩
    cases same
    rcases choose_eq_ok_iff.mp chosen with ⟨listed, size⟩
    rcases ih behind with ⟨written, entered⟩
    have first := Build.artifact?_eq_some_iff.mp listed
    refine ⟨.cons ⟨rfl, rfl, ⟨artifact, first, rfl⟩, size⟩ written, ?_⟩
    rw [List.zipWith_cons_cons, ← entered]
    rfl

/-- Without a cursor a region keeps the address of the template. -/
theorem placeRegions_kept
    (found : placeRegions target firmware none regions = .ok (placed, ops)) :
    List.Forall₂ (fun region op => region.flashAddress = some op.address) regions ops ∧
      placed = regions := by
  induction regions generalizing placed ops with
  | nil =>
    cases found
    exact ⟨.nil, rfl⟩
  | cons region rest ih =>
    simp only [placeRegions, bind_eq_ok_iff] at found
    rcases found with
      ⟨artifact, chosen, ⟨address, next⟩, assigned, ⟨others, otherOps⟩, behind, same⟩
    cases same
    simp only [assign] at assigned
    split at assigned
    · next listed =>
      cases assigned
      rcases ih behind with ⟨kept, unchanged⟩
      refine ⟨.cons listed kept, ?_⟩
      rw [unchanged, ← listed]
    · cases assigned

end

/-- Between the writes of the bitstream and of the manifest stand those of the
regions, in the order of the template. -/
theorem writes_of_package {target : Target} {build : Build} {plan : WritePlan}
    (packaged : package target build = .ok plan) :
    ∃ ops, plan.ops =
        bitstreamOp target build.bitstream :: (ops ++ [manifestOp target plan.manifest]) ∧
      List.Forall₂ (Writes build.firmware) build.manifest.regions ops := by
  rcases package_eq_ok_iff.mp packaged with ⟨regions, ops, placed, same, _⟩
  exact same ▸ ⟨ops, rfl, (placeRegions_writes (placeFirmware_eq_ok_iff.mp placed).2).1⟩

namespace Stacked

variable {start stop : Nat} {ops : List WriteOp}

theorem dvd_address (stacked : Stacked start ops stop) (aligned : Layout.pageSize ∣ start) :
    ∀ op ∈ ops, Layout.pageSize ∣ op.address.toNat := by
  induction stacked with
  | nil =>
    intro op impossible
    cases impossible
  | cons placed rest ih =>
    rw [List.forall_mem_cons]
    exact ⟨placed.symm ▸ aligned, ih (Nat.dvd_add aligned (Flash.Image.dvd_pageStop _))⟩

theorem address_of_mem_head? {op : WriteOp} (stacked : Stacked start ops stop)
    (first : op ∈ ops.head?) : op.address.toNat = start := by
  cases stacked with
  | nil => cases first
  | cons placed rest =>
    cases first
    exact placed

theorem isChain (stacked : Stacked start ops stop) (aligned : Layout.pageSize ∣ start) :
    ops.IsChain Follows := by
  induction stacked with
  | nil => exact .nil
  | @cons start stop op ops placed rest ih =>
    have chain := ih (Nat.dvd_add aligned (Flash.Image.dvd_pageStop _))
    cases ops with
    | nil => exact .singleton op
    | cons next others =>
      refine .cons_cons ?_ chain
      have boundary := rest.address_head
      rw [← placed, ← Flash.Image.pageStop_add (placed.symm ▸ aligned)] at boundary
      have inside := Flash.Image.le_pageStop (op.address.toNat + op.payload.size)
      have value := Word.toNat_ofNat (Nat.lt_of_le_of_lt inside
        (boundary ▸ Word.toNat_lt_limit next.address))
      refine ⟨⟨op.address, UInt32.ofNat (op.address.toNat + op.payload.size)⟩,
        WriteOp.range?_eq_some_iff.mpr ⟨rfl, value⟩, ?_⟩
      rw [Layout.alignUp?_eq_some_iff, value, boundary]
      rfl

end Stacked

/-- A plan is for the slot that was asked for.  It writes the bitstream to the
start of the slot, then each region with the octets of the first artifact of
its name, and last the document of its manifest.  The regions of the bootloader
slot are where the template has them, and those of a user slot are packed from
the firmware base on.  The manifest is the stamped template, in a user slot
with the addresses of the writes. -/
theorem contents_of_plan {target : Target} {build : Build} {plan : WritePlan}
    (packaged : package target build = .ok plan) :
    plan.target = target ∧ ∃ ops,
      plan.ops = ⟨"bitstream", .bit, target.bitstreamAddress, build.bitstream⟩ ::
        (ops ++ [⟨"manifest", .raw, target.manifestAddress, plan.manifest.toJson⟩]) ∧
      List.Forall₂ (Writes build.firmware) build.manifest.regions ops ∧
      match target with
      | .bootloader =>
        List.Forall₂ (fun region op => region.flashAddress = some op.address)
            build.manifest.regions ops ∧
          plan.manifest = { build.manifest with magic := some Manifest.magicStamp }
      | .user slot =>
        (∀ first ∈ ops.head?, first.address = Layout.firmwareBase slot) ∧
          ops.IsChain Follows ∧ (∀ op ∈ ops, Layout.pageSize ∣ op.address.toNat) ∧
          plan.manifest = { build.manifest with
            magic := some Manifest.magicStamp
            regions := List.zipWith addressed build.manifest.regions ops } := by
  rcases package_eq_ok_iff.mp packaged with ⟨regions, ops, placed, same, _⟩
  subst same
  have moved := (placeFirmware_eq_ok_iff.mp placed).2
  rcases placeRegions_writes moved with ⟨written, entered⟩
  refine ⟨rfl, ops, rfl, written, ?_⟩
  cases target with
  | bootloader =>
    rcases placeRegions_kept moved with ⟨kept, unchanged⟩
    subst unchanged
    exact ⟨kept, rfl⟩
  | user slot =>
    rcases placeFirmware_user placed with ⟨_, _, _, stacked, _⟩
    have aligned := dvd_firmwareBase slot
    refine ⟨?_, stacked.isChain aligned, stacked.dvd_address aligned, ?_⟩
    · intro first found
      exact UInt32.toNat_inj.mp (stacked.address_of_mem_head? found)
    · subst entered
      rfl

/-- A build with two artifacts of one name and a region without octets. -/
def sharedBuild : Build where
  bitstream := ⟨#[1, 2, 3, 4]⟩
  firmware := [⟨"fw.bin", ⟨#[7, 8, 9]⟩⟩, ⟨"fw.bin", ⟨#[5]⟩⟩, ⟨"pad.bin", ⟨#[]⟩⟩]
  manifest := ⟨"DSP", none, none, none, none, none,
    [⟨"fw.bin", 3, .resident 0, some 5⟩, ⟨"pad.bin", 0, .resident 0, none⟩]⟩

def sharedOps : List WriteOp :=
  [⟨"fw.bin", .raw, 0x4C0000, ⟨#[7, 8, 9]⟩⟩, ⟨"pad.bin", .raw, 0x4C0400, ⟨#[]⟩⟩]

/-- The plan of this build for the fourth user slot. -/
def sharedPlan : WritePlan :=
  proposal (.user ⟨3, by decide⟩) sharedBuild
    [⟨"fw.bin", 3, .resident 0, some 0x4C0000⟩, ⟨"pad.bin", 0, .resident 0, some 0x4C0400⟩]
    sharedOps

set_option maxRecDepth 2000 in
theorem firstOverlap?_sharedPlan : firstOverlap? (withPages sharedPlan.ops) = none := by
  cbv

theorem package_sharedBuild : package (.user ⟨3, by decide⟩) sharedBuild = .ok sharedPlan := by
  have overlaps : checkOverlaps sharedPlan.ops = .ok () := by
    rw [checkOverlaps, firstOverlap?_sharedPlan]
  exact package_of_checks rfl (by cbv) (by cbv) overlaps

theorem contents_of_sharedPlan :
    package (.user ⟨3, by decide⟩) sharedBuild = .ok sharedPlan ∧
      sharedPlan.ops = ⟨"bitstream", .bit, 0x400000, ⟨#[1, 2, 3, 4]⟩⟩ ::
        (sharedOps ++ [⟨"manifest", .raw, 0x4FFC00, sharedPlan.manifest.toJson⟩]) ∧
      List.Forall₂ (Writes sharedBuild.firmware) sharedBuild.manifest.regions sharedOps ∧
      sharedOps.IsChain Follows ∧
      sharedPlan.manifest.regions =
        List.zipWith addressed sharedBuild.manifest.regions sharedOps := by
  rcases contents_of_plan package_sharedBuild with
    ⟨_, ops, order, written, _, chain, _, manifest⟩
  have same : sharedOps = ops := List.append_cancel_right (List.cons.inj order).2
  subst same
  exact ⟨package_sharedBuild, order, written, chain, congrArg Manifest.regions manifest⟩

end Package
end FlashSlots
