import Mathlib
import FlashSlots.Proofs.Manifest.RoundTrip
import FlashSlots.Proofs.Package.Contents

namespace FlashSlots

open Layout (SlotIndex Target)

/-!
# Packaging again

A manifest that has been through packaging carries the addresses of its slot
and the stamp, and both may be there when it is packaged again.  For a user
slot neither matters, and neither does the order of the artifacts.  With the
manifest of its own plan, read back from the document that goes to flash, a
build has the same plan again, also in the bootloader slot.
-/

/-! ## What a user slot does not depend on -/

/-- The region without its flash address. -/
def Region.unplaced (region : Region) : Region := { region with flashAddress := none }

/-- The manifest without the addresses and the stamp. -/
def Manifest.template (manifest : Manifest) : Manifest :=
  { manifest with magic := none, regions := manifest.regions.map Region.unplaced }

/-- The builds have the same bitstream, the same artifacts in some order, each
under a name of its own, and the same manifest but for addresses and stamp. -/
structure Build.SameSources (first second : Build) : Prop where
  bitstream : second.bitstream = first.bitstream
  manifest : second.manifest.template = first.manifest.template
  firmware : second.firmware.Perm first.firmware
  distinct : (first.firmware.map Artifact.filename).Nodup

namespace Build

/-- Under distinct names there is one artifact to find. -/
theorem artifact?_iff_of_distinct {firmware : List Artifact}
    (distinct : (firmware.map Artifact.filename).Nodup) {filename : String} {artifact : Artifact} :
    artifact? firmware filename = some artifact ↔
      artifact ∈ firmware ∧ artifact.filename = filename := by
  have named : ∀ other, artifact? firmware filename = some other ->
      other ∈ firmware ∧ other.filename = filename := by
    intro other found
    rcases artifact?_eq_some_iff.mp found with ⟨same, before, behind, parts, _⟩
    rw [parts]
    exact ⟨List.mem_append_right _ List.mem_cons_self, same⟩
  constructor
  · exact named artifact
  · rintro ⟨listed, same⟩
    cases found : artifact? firmware filename with
    | none =>
      have unnamed := List.find?_eq_none.mp found artifact listed
      exact absurd (beq_iff_eq.mpr same) unnamed
    | some other =>
      rcases named other found with ⟨otherListed, otherSame⟩
      rw [List.inj_on_of_nodup_map distinct otherListed listed (otherSame.trans same.symm)]

theorem artifact?_perm {first second : List Artifact} (perm : second.Perm first)
    (distinct : (first.map Artifact.filename).Nodup) : artifact? second = artifact? first := by
  have otherDistinct : (second.map Artifact.filename).Nodup :=
    (perm.map Artifact.filename).nodup_iff.mpr distinct
  funext filename
  ext artifact
  rw [artifact?_iff_of_distinct otherDistinct, artifact?_iff_of_distinct distinct, perm.mem_iff]

end Build

namespace Package

variable {target : Target}

theorem checkRegionKinds_unplaced (target : Target) (regions : List Region) :
    checkRegionKinds target (regions.map Region.unplaced) = checkRegionKinds target regions := by
  unfold checkRegionKinds
  have kinds : ((fun region : Region => !accepts target region.kind) ∘ Region.unplaced) =
      fun region => !accepts target region.kind := rfl
  rw [List.find?_map, kinds]
  cases regions.find? fun region => !accepts target region.kind with
  | none => rfl
  | some region => rfl

/-- A cursor does not care for the addresses that regions come with. -/
theorem placeRegions_unplaced (firmware : List Artifact) (next : UInt32) (regions : List Region) :
    placeRegions target firmware (some next) (regions.map Region.unplaced) =
      placeRegions target firmware (some next) regions := by
  induction regions generalizing next with
  | nil => rfl
  | cons region rest ih =>
    have chosen : choose firmware region.unplaced = choose firmware region := rfl
    have placed : assign target region.unplaced (some next) = assign target region (some next) :=
      rfl
    rw [List.map_cons, placeRegions, placeRegions, chosen, placed]
    cases choose firmware region with
    | error cause => rfl
    | ok artifact =>
      cases assigned : assign target region (some next) with
      | error cause => rfl
      | ok place =>
        rcases place with ⟨address, behind⟩
        rcases assign_cursor_eq_ok_iff.mp assigned with ⟨_, cursor, continues, _⟩
        subst continues
        change (placeRegions target firmware (some cursor) (rest.map Region.unplaced) >>= _) = _
        rw [ih]
        rfl

theorem placeRegions_congr {first second : List Artifact}
    (same : Build.artifact? second = Build.artifact? first) (cursor : Option UInt32)
    (regions : List Region) :
    placeRegions target second cursor regions = placeRegions target first cursor regions := by
  induction regions generalizing cursor with
  | nil => rfl
  | cons region rest ih =>
    have chosen : choose second region = choose first region := by rw [choose, same, choose]
    simp only [placeRegions, chosen, ih]

theorem package_template (slot : SlotIndex) (build : Build) :
    package (.user slot) { build with manifest := build.manifest.template } =
      package (.user slot) build := by
  have placed : placeFirmware (.user slot) { build with manifest := build.manifest.template } =
      placeFirmware (.user slot) build := by
    simp only [placeFirmware, Manifest.template, firstCursor, checkRegionKinds_unplaced,
      placeRegions_unplaced]
  unfold package
  rw [placed]
  rfl

theorem package_congr {first second : List Artifact}
    (same : Build.artifact? second = Build.artifact? first) (bitstream : ByteArray)
    (manifest : Manifest) :
    package target ⟨bitstream, second, manifest⟩ = package target ⟨bitstream, first, manifest⟩ := by
  unfold package placeFirmware
  dsimp only
  rw [placeRegions_congr same]
  rfl

theorem package_of_sameSources {first second : Build} (same : first.SameSources second)
    (slot : SlotIndex) : package (.user slot) second = package (.user slot) first := by
  rw [← package_template slot second, ← package_template slot first, same.manifest, same.bitstream]
  exact package_congr (Build.artifact?_perm same.firmware same.distinct) _ _

/-! ## The manifest of a plan as a template -/

theorem assign_again {region : Region} {cursor behind : Option UInt32} {address : UInt32}
    (assigned : assign target region cursor = .ok (address, behind)) :
    assign target { region with flashAddress := some address } cursor = .ok (address, behind) := by
  cases cursor with
  | none =>
    unfold assign at assigned
    dsimp only at assigned
    split at assigned
    · cases assigned
      rfl
    · cases assigned
  | some next => exact assigned

/-- Regions that have their places keep them. -/
theorem placeRegions_again {firmware : List Artifact} {cursor : Option UInt32}
    {regions placed : List Region} {ops : List WriteOp}
    (found : placeRegions target firmware cursor regions = .ok (placed, ops)) :
    placeRegions target firmware cursor placed = .ok (placed, ops) ∧
      placed.map Region.unplaced = regions.map Region.unplaced := by
  induction regions generalizing cursor placed ops with
  | nil =>
    cases found
    exact ⟨rfl, rfl⟩
  | cons region rest ih =>
    simp only [placeRegions, bind_eq_ok_iff] at found
    rcases found with
      ⟨artifact, chosen, ⟨address, next⟩, assigned, ⟨others, otherOps⟩, behind, same⟩
    cases same
    rcases ih behind with ⟨again, unplaced⟩
    constructor
    · simp only [placeRegions, bind_eq_ok_iff]
      exact ⟨artifact, chosen, _, assign_again assigned, _, again, rfl⟩
    · rw [List.map_cons, List.map_cons, unplaced]
      rfl

theorem package_again {build : Build} {plan : WritePlan}
    (packaged : package target build = .ok plan) :
    package target { build with manifest := plan.manifest } = .ok plan := by
  rcases package_eq_ok_iff.mp packaged with ⟨regions, ops, placed, same, valid⟩
  rcases placeFirmware_eq_ok_iff.mp placed with ⟨kinds, found⟩
  rcases placeRegions_again found with ⟨again, unplaced⟩
  have entered : plan.manifest.regions = regions := by
    rw [same]
    rfl
  have kindsAgain : checkRegionKinds target plan.manifest.regions = .ok () := by
    rw [entered, ← checkRegionKinds_unplaced, unplaced, checkRegionKinds_unplaced]
    exact kinds
  have placedAgain : placeFirmware target { build with manifest := plan.manifest } =
      .ok (regions, ops) := by
    rw [placeFirmware_eq_ok_iff]
    refine ⟨kindsAgain, ?_⟩
    dsimp only
    rw [entered]
    exact again
  have proposed : plan = proposal target { build with manifest := plan.manifest } regions ops := by
    rw [same]
    rfl
  exact package_eq_ok_iff.mpr ⟨regions, ops, placedAgain, proposed, valid⟩

/-- Builds that differ in the order of their artifacts, in the addresses of
their regions and in their stamps have the same plan for a user slot, or the
same error.  For any slot, a build has the same plan again with the manifest
that is read back from the document of its plan. -/
theorem package_of_sources_and_again :
    (∀ (slot : SlotIndex) (first second : Build), first.SameSources second ->
      package (.user slot) first = package (.user slot) second) ∧
      ∀ (target : Target) (build : Build) (plan : WritePlan),
        package target build = .ok plan ->
          ∃ manifest, Manifest.parse plan.manifest.toJson = .ok manifest ∧
            package target { build with manifest := manifest } = .ok plan := by
  constructor
  · intro slot first second same
    exact (package_of_sameSources same slot).symm
  · intro target build plan packaged
    exact ⟨plan.manifest, Manifest.parseOctets_render plan.manifest, package_again packaged⟩

/-- A build with two artifacts, neither of which has an address yet. -/
def freshBuild : Build where
  bitstream := ⟨#[1, 2, 3]⟩
  firmware := [⟨"kernel", ⟨#[4]⟩⟩, ⟨"data", ⟨#[5, 6]⟩⟩]
  manifest := ⟨"DSP", none, none, none, none, none,
    [⟨"kernel", 1, .resident 0x40000000, none⟩, ⟨"data", 2, .resident 0x40001000, none⟩]⟩

/-- The same build with addresses and a stamp left behind, and with its
artifacts in the other order. -/
def staleBuild : Build where
  bitstream := ⟨#[1, 2, 3]⟩
  firmware := [⟨"data", ⟨#[5, 6]⟩⟩, ⟨"kernel", ⟨#[4]⟩⟩]
  manifest := ⟨"DSP", none, none, none, none, some 7,
    [⟨"kernel", 1, .resident 0x40000000, some 0xFFFFFFFF⟩,
      ⟨"data", 2, .resident 0x40001000, some 12⟩]⟩

theorem staleBuild_sameSources : freshBuild.SameSources staleBuild where
  bitstream := rfl
  manifest := by decide
  firmware := .swap ..
  distinct := by decide

/-- Both builds have a plan, the same one, and its manifest leads to it again. -/
theorem staleBuild_packaged :
    ∃ plan manifest, package (.user ⟨2, by decide⟩) staleBuild = .ok plan ∧
      package (.user ⟨2, by decide⟩) freshBuild = .ok plan ∧
      Manifest.parse plan.manifest.toJson = .ok manifest ∧
      package (.user ⟨2, by decide⟩) { staleBuild with manifest := manifest } = .ok plan := by
  have possible : (package (.user ⟨2, by decide⟩) staleBuild).toOption.isSome = true := by
    decide +kernel
  cases packaged : package (.user ⟨2, by decide⟩) staleBuild with
  | error cause =>
    rw [packaged] at possible
    cases possible
  | ok plan =>
    have fresh := package_of_sources_and_again.1 ⟨2, by decide⟩ _ _ staleBuild_sameSources
    rcases package_of_sources_and_again.2 _ _ _ packaged with ⟨manifest, read, again⟩
    exact ⟨plan, manifest, rfl, fresh.trans packaged, read, again⟩

end Package
end FlashSlots
