import FlashSlots.Package.Plan
import FlashSlots.Proofs.Flash.Pages
import Mathlib.Data.List.Forall2
import Mathlib.Data.List.Pairwise

namespace FlashSlots

open Layout (Span Target)
open Flash.Image (pageStart pageStop)

/-!
# When there is a plan

The two checks at the end of packaging find that every write lies in the slot
and that the writes are apart from each other.

`package_eq_ok_iff` says exactly when there is a plan and which one it is.
Everything else that is known about plans follows from it.
-/

namespace Package

/-! ## The checks -/

theorem fitsSlot_iff {target : Target} {op : WriteOp} :
    fitsSlot target op = true ↔ op.InSlot target := by
  unfold fitsSlot WriteOp.InSlot
  cases pages : op.pageSpan? with
  | none =>
    constructor
    · intro impossible
      cases impossible
    · intro inside
      rcases WriteOp.pageSpan?_of_onChip inside.1 with ⟨span, found⟩
      rw [pages] at found
      cases found
  | some span =>
    rcases WriteOp.pageSpan?_eq_some_iff.mp pages with ⟨onChip, start, stop⟩
    simp only [Target.contains, Bool.and_eq_true, decide_eq_true_eq, UInt32.le_iff_toNat_le,
      start, stop, onChip, true_and]

theorem checkSlotBounds_eq_ok_iff {target : Target} {ops : List WriteOp} :
    checkSlotBounds target ops = .ok () ↔ ∀ op ∈ ops, op.InSlot target := by
  unfold checkSlotBounds
  simp only [← fitsSlot_iff]
  split
  · next op found =>
    have outside := List.find?_some found
    have member := List.mem_of_find?_eq_some found
    constructor
    · intro impossible
      cases impossible
    · intro inside
      rw [inside op member] at outside
      cases outside
  · next none =>
    refine ⟨fun _ op member => ?_, fun _ => rfl⟩
    simpa only [Bool.not_eq_true, Bool.not_eq_false'] using List.find?_eq_none.mp none op member

theorem firstOverlap?_eq_none_iff {pages : List (WriteOp × Span)} :
    firstOverlap? pages = none ↔
      pages.Pairwise fun first second => first.2.crosses second.2 = false := by
  induction pages with
  | nil => exact ⟨fun _ => .nil, fun _ => rfl⟩
  | cons first rest ih =>
    rw [firstOverlap?, List.pairwise_cons]
    cases found : rest.find? fun second => first.2.crosses second.2 with
    | some second =>
      have crossed := List.find?_some found
      have member := List.mem_of_find?_eq_some found
      constructor
      · intro impossible
        cases impossible
      · intro apart
        rw [apart.1 second member] at crossed
        cases crossed
    | none =>
      have apart : ∀ second ∈ rest, first.2.crosses second.2 = false :=
        fun second member => eq_false_of_ne_true (List.find?_eq_none.mp found second member)
      rw [ih]
      exact ⟨fun others => ⟨apart, others⟩, fun both => both.2⟩

theorem crosses_eq_false_iff {first second : WriteOp} {firstPages secondPages : Span}
    (firstFound : first.pageSpan? = some firstPages)
    (secondFound : second.pageSpan? = some secondPages) :
    firstPages.crosses secondPages = false ↔ first.Apart second := by
  rcases WriteOp.pageSpan?_eq_some_iff.mp firstFound with ⟨_, firstStart, firstStop⟩
  rcases WriteOp.pageSpan?_eq_some_iff.mp secondFound with ⟨_, secondStart, secondStop⟩
  simp only [Span.crosses, Bool.and_eq_false_iff, decide_eq_false_iff_not,
    UInt32.lt_iff_toNat_lt, Nat.not_lt, firstStart, firstStop, secondStart, secondStop,
    WriteOp.Apart]
  exact or_comm

theorem checkOverlaps_eq_ok_iff {ops : List WriteOp} (onChip : ∀ op ∈ ops, op.OnChip) :
    checkOverlaps ops = .ok () ↔ ops.Pairwise WriteOp.Apart := by
  have pages : firstOverlap? (withPages ops) = none ↔ ops.Pairwise WriteOp.Apart := by
    rw [firstOverlap?_eq_none_iff, withPages, List.pairwise_filterMap]
    apply List.Pairwise.iff_of_mem
    intro first second firstMember secondMember
    rcases WriteOp.pageSpan?_of_onChip (onChip first firstMember) with ⟨firstPages, firstFound⟩
    rcases WriteOp.pageSpan?_of_onChip (onChip second secondMember) with ⟨secondPages, secondFound⟩
    rw [← crosses_eq_false_iff firstFound secondFound]
    simp [firstFound, secondFound]
  rw [← pages]
  unfold checkOverlaps
  split
  · next found => simp [found]
  · next found => simp [found]

/-! ## The plan -/

/-- The plan with these regions and firmware writes, valid or not. -/
def proposal (target : Target) (build : Build) (regions : List Region) (ops : List WriteOp) :
    WritePlan :=
  let manifest := { build.manifest with regions := regions }.stamp
  ⟨target, manifest,
    bitstreamOp target build.bitstream :: (ops ++ [manifestOp target manifest])⟩

theorem assemble_eq_ok_iff {target : Target} {build : Build} {regions : List Region}
    {ops : List WriteOp} {plan : WritePlan} :
    assemble target build regions ops = .ok plan ↔
      plan = proposal target build regions ops ∧ plan.manifest.fits = true ∧
        (∀ op ∈ plan.ops, op.InSlot target) ∧ plan.ops.Pairwise WriteOp.Apart := by
  by_cases small : (proposal target build regions ops).manifest.fits = true
  · have start : assemble target build regions ops =
        (checkSlotBounds target (proposal target build regions ops).ops >>= fun _ =>
          checkOverlaps (proposal target build regions ops).ops >>= fun _ =>
            .ok (proposal target build regions ops)) := by
      have fits : ({ build.manifest with regions := regions }.stamp).fits = true := small
      rw [assemble, fits]
      rfl
    rw [start]
    simp only [bind_eq_ok_iff]
    constructor
    · rintro ⟨_, bounds, _, overlaps, same⟩
      cases same
      have inside := checkSlotBounds_eq_ok_iff.mp bounds
      exact ⟨rfl, small, inside, (checkOverlaps_eq_ok_iff fun op member =>
        (inside op member).1).mp overlaps⟩
    · rintro ⟨same, _, inside, apart⟩
      subst same
      exact ⟨(), checkSlotBounds_eq_ok_iff.mpr inside, (),
        (checkOverlaps_eq_ok_iff fun op member => (inside op member).1).mpr apart, rfl⟩
  · constructor
    · intro impossible
      have large : ({ build.manifest with regions := regions }.stamp).fits = false :=
        Bool.eq_false_iff.mpr small
      rw [assemble, large] at impossible
      cases impossible
    · rintro ⟨same, fits, _⟩
      subst same
      exact absurd fits small

/-- There is a plan exactly if every region has a place and the proposal with
these places passes the checks. -/
theorem package_eq_ok_iff {target : Target} {build : Build} {plan : WritePlan} :
    package target build = .ok plan ↔
      ∃ regions ops, placeFirmware target build = .ok (regions, ops) ∧
        plan = proposal target build regions ops ∧ plan.manifest.fits = true ∧
        (∀ op ∈ plan.ops, op.InSlot target) ∧ plan.ops.Pairwise WriteOp.Apart := by
  unfold package
  constructor
  · intro packaged
    split at packaged
    · cases packaged
    · next regions ops placed =>
      split at packaged
      · cases packaged
      · next assembled =>
        cases packaged
        exact ⟨regions, ops, placed, assemble_eq_ok_iff.mp assembled⟩
  · rintro ⟨regions, ops, placed, valid⟩
    rw [placed]
    dsimp only
    rw [assemble_eq_ok_iff.mpr valid]

/-- The checks can be run one by one to find the plan of a build. -/
theorem package_of_checks {target : Target} {build : Build} {regions : List Region}
    {ops : List WriteOp} (placed : placeFirmware target build = .ok (regions, ops))
    (fits : (proposal target build regions ops).manifest.fits = true)
    (bounds : checkSlotBounds target (proposal target build regions ops).ops = .ok ())
    (overlaps : checkOverlaps (proposal target build regions ops).ops = .ok ()) :
    package target build = .ok (proposal target build regions ops) := by
  have inside := checkSlotBounds_eq_ok_iff.mp bounds
  have apart := (checkOverlaps_eq_ok_iff fun op member => (inside op member).1).mp overlaps
  exact package_eq_ok_iff.mpr ⟨regions, ops, placed, rfl, fits, inside, apart⟩

/-- The write carries the artifact that is chosen for the region, to the
address that the region names. -/
def Carries (firmware : List Artifact) (region : Region) (op : WriteOp) : Prop :=
  ∃ artifact, Build.artifact? firmware region.filename = some artifact ∧
    artifact.bytes.size = region.size.toNat ∧ region.flashAddress = some op.address ∧
    op = ⟨region.filename, .raw, op.address, artifact.bytes⟩

theorem choose_eq_ok_iff {firmware : List Artifact} {region : Region} {artifact : Artifact} :
    choose firmware region = .ok artifact ↔
      Build.artifact? firmware region.filename = some artifact ∧
        artifact.bytes.size = region.size.toNat := by
  unfold choose
  cases Build.artifact? firmware region.filename with
  | none => simp
  | some first =>
    dsimp only
    split
    · next size =>
      constructor
      · intro chosen
        cases chosen
        exact ⟨rfl, size⟩
      · rintro ⟨same, _⟩
        cases same
        rfl
    · next size =>
      constructor
      · intro impossible
        cases impossible
      · rintro ⟨same, other⟩
        cases same
        exact absurd other size

theorem placeFirmware_eq_ok_iff {target : Target} {build : Build} {regions : List Region}
    {ops : List WriteOp} :
    placeFirmware target build = .ok (regions, ops) ↔
      checkRegionKinds target build.manifest.regions = .ok () ∧
        placeRegions target build.firmware (firstCursor target) build.manifest.regions =
          .ok (regions, ops) := by
  unfold placeFirmware
  cases checkRegionKinds target build.manifest.regions with
  | error cause => simp
  | ok accepted => simp

theorem placeRegions_carries {target : Target} {firmware : List Artifact}
    {cursor : Option UInt32} {regions placed : List Region} {ops : List WriteOp}
    (found : placeRegions target firmware cursor regions = .ok (placed, ops)) :
    List.Forall₂ (Carries firmware) placed ops := by
  induction regions generalizing cursor placed ops with
  | nil =>
    cases found
    exact .nil
  | cons region rest ih =>
    simp only [placeRegions, bind_eq_ok_iff] at found
    rcases found with
      ⟨artifact, chosen, ⟨address, next⟩, assigned, ⟨others, otherOps⟩, behind, same⟩
    cases same
    rcases choose_eq_ok_iff.mp chosen with ⟨listed, size⟩
    exact .cons ⟨artifact, listed, size, rfl, rfl⟩ (ih behind)

theorem exists_write {firmware : List Artifact} {regions : List Region} {ops : List WriteOp}
    (carried : List.Forall₂ (Carries firmware) regions ops) {region : Region}
    (listed : region ∈ regions) : ∃ op ∈ ops, Carries firmware region op := by
  induction carried with
  | nil => cases listed
  | cons first _ ih =>
    rcases List.mem_cons.mp listed with same | later
    · exact ⟨_, List.mem_cons_self, same ▸ first⟩
    · rcases ih later with ⟨op, member, carries⟩
      exact ⟨op, List.mem_cons_of_mem _ member, carries⟩

theorem placeFirmware_carries {target : Target} {build : Build} {regions : List Region}
    {ops : List WriteOp} (placed : placeFirmware target build = .ok (regions, ops)) :
    List.Forall₂ (Carries build.firmware) regions ops :=
  placeRegions_carries (placeFirmware_eq_ok_iff.mp placed).2

end Package
end FlashSlots
