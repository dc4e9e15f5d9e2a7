import Mathlib
import FlashSlots.Proofs.Package.Contents

namespace FlashSlots

open Layout (Target)

/-!
# What becomes of the artifacts

An artifact is either written for a region or reported as ignored.  The two are
decided separately: a region takes the first artifact of its name, and an
artifact is reported if no region has its name.  So an artifact falls between
the two if a region has its name but takes an earlier artifact.  It is neither
written nor reported, and that is the only way to get lost.
-/

namespace Package

/-- The region takes the artifact at this position. -/
def Takes (firmware : List Artifact) (region : Region) (position : Nat) : Prop :=
  firmware.findIdx? (fun artifact => artifact.filename == region.filename) = some position

/-- A region takes the artifact at this position, and its write carries the
octets of the artifact. -/
def Used (plan : WritePlan) (build : Build) (position : Nat) (artifact : Artifact) : Prop :=
  ∃ index region op, build.manifest.regions[index]? = some region ∧
    Takes build.firmware region position ∧ plan.ops[index + 1]? = some op ∧
    op.region = region.filename ∧ op.payload = artifact.bytes

/-- A warning says that the artifact is ignored. -/
def Reported (target : Target) (build : Build) (artifact : Artifact) : Prop :=
  ignoredMessage artifact ∈ warnings target build

/-- A region has the name of the artifact, but so has an earlier artifact. -/
structure Shadowed (build : Build) (position : Nat) (artifact : Artifact) : Prop where
  named : ∃ region ∈ build.manifest.regions, region.filename = artifact.filename
  earlier : ∃ other ∈ build.firmware.take position, other.filename = artifact.filename

/-! ## The artifact of a region -/

section

variable {firmware : List Artifact} {region : Region} {position : Nat} {artifact : Artifact}

theorem takes_iff (listed : firmware[position]? = some artifact) :
    Takes firmware region position ↔ artifact.filename = region.filename ∧
      ∀ other ∈ firmware.take position, other.filename ≠ region.filename := by
  rcases List.getElem?_eq_some_iff.mp listed with ⟨inside, same⟩
  rw [Takes, List.findIdx?_eq_some_iff_getElem]
  simp only [beq_iff_eq, inside, exists_true_left, same]
  refine and_congr_right fun _ => ?_
  constructor
  · intro first other earlier
    rcases List.mem_take_iff_getElem.mp earlier with ⟨index, before, rfl⟩
    exact first index (Nat.lt_of_lt_of_le before (Nat.min_le_left _ _))
  · intro first index before
    exact first _ (List.mem_take_iff_getElem.mpr ⟨index, by omega, rfl⟩)

theorem Takes.found (takes : Takes firmware region position)
    (listed : firmware[position]? = some artifact) :
    Build.artifact? firmware region.filename = some artifact := by
  rw [Build.artifact?, List.find?_eq_bind_findIdx?_getElem?, takes, Option.bind_some, listed]

end

theorem filename_of_ignoredMessage {first second : Artifact}
    (same : ignoredMessage first = ignoredMessage second) : first.filename = second.filename := by
  rw [ignoredMessage, ignoredMessage, ← String.toList_inj] at same
  simpa [String.toList_inj] using same

section

variable {target : Target} {build : Build} {plan : WritePlan} {position : Nat}
  {artifact : Artifact} (packaged : package target build = .ok plan)
  (listed : build.firmware[position]? = some artifact)

include packaged

/-- The write of a region stands behind that of the bitstream, in the order of
the manifest. -/
theorem write_of_region {index : Nat} {region : Region}
    (found : build.manifest.regions[index]? = some region) :
    ∃ op, plan.ops[index + 1]? = some op ∧ Writes build.firmware region op := by
  rcases writes_of_package packaged with ⟨ops, order, written⟩
  rcases List.getElem?_eq_some_iff.mp found with ⟨inside, here⟩
  have room : index < ops.length := written.length_eq ▸ inside
  have writes := written.get inside room
  rw [List.get_eq_getElem, List.get_eq_getElem, here] at writes
  refine ⟨ops[index], ?_, writes⟩
  rw [order, List.getElem?_cons_succ, List.getElem?_append_left room,
    List.getElem?_eq_getElem room]

include listed

/-- Only the name decides about the warning. -/
theorem reported_iff : Reported target build artifact ↔
    ∀ region ∈ build.manifest.regions, region.filename ≠ artifact.filename := by
  rcases package_eq_ok_iff.mp packaged with ⟨regions, ops, placed, _⟩
  have member := List.mem_of_getElem? listed
  simp only [Reported, warnings, ignoredArtifacts, placed, List.mem_map, List.mem_filter,
    Bool.not_eq_eq_eq_not, Bool.not_true, List.any_eq_false, beq_iff_eq]
  constructor
  · rintro ⟨other, ⟨_, unnamed⟩, same⟩
    rw [← filename_of_ignoredMessage same]
    exact unnamed
  · exact fun unnamed => ⟨artifact, ⟨member, unnamed⟩, rfl⟩

theorem used_iff : Used plan build position artifact ↔
    (∃ region ∈ build.manifest.regions, region.filename = artifact.filename) ∧
      ∀ other ∈ build.firmware.take position, other.filename ≠ artifact.filename := by
  constructor
  · rintro ⟨index, region, op, found, takes, _⟩
    rcases (takes_iff listed).mp takes with ⟨named, first⟩
    exact ⟨⟨region, List.mem_of_getElem? found, named.symm⟩, named ▸ first⟩
  · rintro ⟨⟨region, member, named⟩, first⟩
    rcases List.getElem?_of_mem member with ⟨index, found⟩
    have takes := (takes_iff listed).mpr ⟨named.symm, named ▸ first⟩
    rcases write_of_region packaged found with ⟨op, written, writes⟩
    rcases writes.carries with ⟨chosen, isFirst, payload⟩
    have same := (Build.artifact?_eq_some_iff.mpr isFirst).symm.trans (takes.found listed)
    cases same
    exact ⟨index, region, op, found, takes, written, writes.named, payload⟩

/-- An artifact is written for a region or reported as ignored, and not both,
unless a region has its name and takes an earlier artifact. -/
theorem accounted_iff_not_shadowed :
    (Used plan build position artifact ∨ Reported target build artifact ↔
      ¬ Shadowed build position artifact) ∧
    ¬ (Used plan build position artifact ∧ Reported target build artifact) := by
  rw [used_iff packaged listed, reported_iff packaged listed]
  refine ⟨⟨?_, ?_⟩, ?_⟩
  · rintro (⟨_, first⟩ | unnamed) ⟨⟨region, member, named⟩, ⟨other, earlier, same⟩⟩
    · exact first other earlier same
    · exact unnamed region member named
  · intro visible
    by_cases named : ∃ region ∈ build.manifest.regions, region.filename = artifact.filename
    · exact .inl ⟨named, fun other earlier same => visible ⟨named, ⟨other, earlier, same⟩⟩⟩
    · exact .inr fun region member same => named ⟨region, member, same⟩
  · rintro ⟨⟨⟨region, member, named⟩, _⟩, unnamed⟩
    exact unnamed region member named

end

theorem sharedBuild_pad_accounted :
    package (.user ⟨3, by decide⟩) sharedBuild = .ok sharedPlan ∧
      (Used sharedPlan sharedBuild 2 ⟨"pad.bin", ⟨#[]⟩⟩ ∨
        Reported (.user ⟨3, by decide⟩) sharedBuild ⟨"pad.bin", ⟨#[]⟩⟩) := by
  have visible : ¬ Shadowed sharedBuild 2 ⟨"pad.bin", ⟨#[]⟩⟩ :=
    fun shadowed => absurd shadowed.earlier (by decide)
  exact ⟨package_sharedBuild,
    (accounted_iff_not_shadowed package_sharedBuild rfl).1.mpr visible⟩

/-- The second artifact of a name is lost without a word. -/
theorem sharedBuild_second_lost :
    ∃ artifact, package (.user ⟨3, by decide⟩) sharedBuild = .ok sharedPlan ∧
      sharedBuild.firmware[1]? = some artifact ∧
      ¬ Used sharedPlan sharedBuild 1 artifact ∧
      ¬ Reported (.user ⟨3, by decide⟩) sharedBuild artifact := by
  have listed : sharedBuild.firmware[1]? = some ⟨"fw.bin", ⟨#[5]⟩⟩ := rfl
  refine ⟨_, package_sharedBuild, listed, ?_, ?_⟩
  · rw [used_iff package_sharedBuild listed]
    exact fun used => absurd used.2 (by decide)
  · rw [reported_iff package_sharedBuild listed]
    exact fun unnamed => absurd unnamed (by decide)

end Package
end FlashSlots
