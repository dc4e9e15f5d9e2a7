import FlashSlots.Proofs.Flash.Effect
import FlashSlots.Proofs.Package.Contents
import FlashSlots.Proofs.Package.Overflow

namespace FlashSlots

open Layout (Span Target)
open Flash.Image (pageStart pageStop Covers SharesPage)

/-!
# What a refusal says about the writes

Two refusals are about the addresses of the writes.  One says that a write
leaves the slot, the other that two writes share a page.  The checks behind
them do not look at octets: they compare the rounded ends of the writes.

For writes that have an octet this comes to the same.  An empty write has
rounded ends as well, although it writes nothing.  So it is refused outside the
slot, and refused between the ends of another write, where neither of the
reports is true.  Empty writes are the only ones that this happens to.
-/

namespace WriteOp

/-- The write has an octet outside the slot. -/
def Leaves (op : WriteOp) (target : Target) : Prop :=
  ∃ address, Covers op.address op.payload.size address ∧
    ¬ (target.base.toNat ≤ address ∧ address < target.stop.toNat)

/-- There is a page with an octet of each of the two writes. -/
def Meets (first second : WriteOp) : Prop :=
  ∃ address, SharesPage first.address first.payload.size address ∧
    SharesPage second.address second.payload.size address

/-- The write starts strictly between the ends of the pages of the other one. -/
def Amid (op other : WriteOp) : Prop :=
  pageStart other.address.toNat < op.address.toNat ∧
    op.address.toNat < pageStop (other.address.toNat + other.payload.size)

/-- The addresses that a refusal shows for a write. -/
def shownRange (op : WriteOp) : Span := op.range?.getD ⟨op.address, Word.greatest⟩

section

variable {first second op other : WriteOp} {target : Target}

/-- The end of a write that runs past the last address cannot be shown. -/
theorem shownRange_of_past (past : Word.limit ≤ op.address.toNat + op.payload.size) :
    op.shownRange = ⟨op.address, Word.greatest⟩ := by
  have unranged : op.range? = none := by
    refine Option.eq_none_iff_forall_ne_some.mpr fun range ranged => ?_
    have stop := (range?_eq_some_iff.mp ranged).2
    exact absurd (Word.toNat_lt_limit range.stop) (Nat.not_lt.mpr (stop.symm ▸ past))
  rw [shownRange, unranged, Option.getD_none]

theorem Leaves.nonempty (leaves : op.Leaves target) : op.payload.size ≠ 0 := by
  rcases leaves with ⟨address, covered, -⟩
  unfold Covers at covered
  omega

theorem not_leaves_of_le (start : target.base.toNat ≤ op.address.toNat)
    (stop : op.address.toNat + op.payload.size ≤ target.stop.toNat) : ¬ op.Leaves target := by
  rintro ⟨address, ⟨low, high⟩, outside⟩
  exact outside ⟨Nat.le_trans start low, Nat.lt_of_lt_of_le high stop⟩

theorem Meets.nonempty (meets : first.Meets second) :
    first.payload.size ≠ 0 ∧ second.payload.size ≠ 0 := by
  rcases meets with ⟨address, inFirst, inSecond⟩
  exact ⟨fun empty => Flash.Image.not_sharesPage_of_empty empty inFirst,
    fun empty => Flash.Image.not_sharesPage_of_empty empty inSecond⟩

theorem Meets.not_apart (meets : first.Meets second) : ¬ first.Apart second := by
  intro apart
  have ⟨firstFull, secondFull⟩ := meets.nonempty
  rcases meets with ⟨address, inFirst, inSecond⟩
  rw [Flash.Image.sharesPage_iff_touches firstFull] at inFirst
  rw [Flash.Image.sharesPage_iff_touches secondFull] at inSecond
  exact apart.not_touches inFirst inSecond

/-- With an octet to write, the pages lie in the slot exactly if the octets do:
a slot starts and stops on page boundaries. -/
theorem leaves_iff (nonempty : op.payload.size ≠ 0) :
    op.Leaves target ↔ ¬ op.InSlot target := by
  rcases target.base_dvd with ⟨pages, base⟩
  have stop := target.toNat_stop
  have chip := target.stop_le_flashSize
  simp only [Layout.pageSize, Layout.slotSize, Layout.flashSize] at base stop chip
  simp only [Leaves, Covers, InSlot, OnChip, pageStart, pageStop, Layout.pageSize,
    Layout.flashSize]
  constructor
  · rintro ⟨address, covered, outside⟩ inside
    omega
  · intro outside
    -- Either the first octet stands before the slot or the last one behind it.
    by_cases before : op.address.toNat < target.base.toNat
    · exact ⟨op.address.toNat, by omega, by omega⟩
    · exact ⟨op.address.toNat + op.payload.size - 1, by omega, by omega⟩

/-- With octets to write on both sides, the pages of one write stop before
those of the other start exactly if no page has an octet of both. -/
theorem meets_iff (firstFull : first.payload.size ≠ 0) (secondFull : second.payload.size ≠ 0) :
    first.Meets second ↔ ¬ first.Apart second := by
  refine ⟨Meets.not_apart, fun crossing => ?_⟩
  -- The later of the two first pages belongs to both.
  refine ⟨max (pageStart first.address.toNat) (pageStart second.address.toNat), ?_, ?_⟩
  · rw [Flash.Image.sharesPage_iff_touches firstFull]
    simp only [Apart, Touches, pageStart, pageStop, Layout.pageSize] at crossing ⊢
    omega
  · rw [Flash.Image.sharesPage_iff_touches secondFull]
    simp only [Apart, Touches, pageStart, pageStop, Layout.pageSize] at crossing ⊢
    omega

/-- An empty write may stand at the end of the slot. -/
theorem inSlot_iff_of_empty (empty : op.payload.size = 0) :
    op.InSlot target ↔
      target.base.toNat ≤ op.address.toNat ∧ op.address.toNat ≤ target.stop.toNat := by
  rcases target.base_dvd with ⟨pages, base⟩
  have stop := target.toNat_stop
  have chip := target.stop_le_flashSize
  simp only [Layout.pageSize, Layout.slotSize, Layout.flashSize] at base stop chip
  simp only [InSlot, OnChip, empty, pageStart, pageStop, Layout.pageSize, Layout.flashSize]
  omega

theorem apart_iff_of_empty (empty : op.payload.size = 0) :
    op.Apart other ↔ ¬ op.Amid other := by
  simp only [Apart, Amid, empty, pageStart, pageStop, Layout.pageSize]
  omega

end

end WriteOp

namespace Package

/-! ## The checks that fail -/

/-- The bounds are refused at the first write whose pages do not lie in the
slot. -/
theorem checkSlotBounds_eq_error_iff {target : Target} {ops : List WriteOp}
    {cause : ValidationError} :
    checkSlotBounds target ops = .error cause ↔
      ∃ front op back, ops = front ++ op :: back ∧ (∀ other ∈ front, other.InSlot target) ∧
        ¬ op.InSlot target ∧ cause = .slotBoundaryExceeded op.region op.shownRange target := by
  have found (op : WriteOp) : ops.find? (fun op => !fitsSlot target op) = some op ↔
      ¬ op.InSlot target ∧ ∃ front back, ops = front ++ op :: back ∧
        ∀ other ∈ front, other.InSlot target := by
    simp [List.find?_eq_some_iff_append, ← fitsSlot_iff]
  unfold checkSlotBounds
  split
  · next op refused =>
    constructor
    · intro failed
      cases failed
      rcases (found op).mp refused with ⟨outside, front, back, split, inside⟩
      exact ⟨front, op, back, split, inside, outside, rfl⟩
    · rintro ⟨front, other, back, split, inside, outside, rfl⟩
      cases refused.symm.trans ((found other).mpr ⟨outside, front, back, split, inside⟩)
      rfl
  · next accepted =>
    constructor
    · nofun
    · rintro ⟨front, op, back, split, inside, outside, _⟩
      cases accepted.symm.trans ((found op).mpr ⟨outside, front, back, split, inside⟩)

theorem crosses_of_firstOverlap? {pages : List (WriteOp × Span)} {first second : WriteOp × Span}
    (found : firstOverlap? pages = some (first, second)) :
    [first, second].Sublist pages ∧ first.2.crosses second.2 = true := by
  induction pages with
  | nil => cases found
  | cons head rest ih =>
    rw [firstOverlap?] at found
    split at found
    · next other later =>
      have listed := List.singleton_sublist.mpr (List.mem_of_find?_eq_some later)
      have crossed := List.find?_some later
      cases found
      exact ⟨listed.cons_cons first, crossed⟩
    · rcases ih found with ⟨listed, crossed⟩
      exact ⟨listed.cons head, crossed⟩

theorem withPages_sublist (ops : List WriteOp) : ((withPages ops).map Prod.fst).Sublist ops := by
  induction ops with
  | nil => exact .slnil
  | cons op rest ih =>
    cases pages : op.pageSpan? with
    | none => simpa [withPages, pages] using ih.cons op
    | some span => simpa [withPages, pages] using ih.cons_cons op

theorem mem_withPages {ops : List WriteOp} {op : WriteOp} {pages : Span}
    (listed : (op, pages) ∈ withPages ops) : op.pageSpan? = some pages := by
  simp only [withPages, List.mem_filterMap, Option.map_eq_some_iff, Prod.mk.injEq] at listed
  rcases listed with ⟨_, _, _, found, rfl, rfl⟩
  exact found

/-- The report names two writes at different positions, and their pages. -/
theorem crossing_of_checkOverlaps {ops : List WriteOp} {cause : ValidationError}
    (refused : checkOverlaps ops = .error cause) :
    ∃ first firstPages second secondPages, [first, second].Sublist ops ∧
      first.pageSpan? = some firstPages ∧ second.pageSpan? = some secondPages ∧
      ¬ first.Apart second ∧
      cause = .overlap first.region firstPages second.region secondPages := by
  unfold checkOverlaps at refused
  split at refused
  · next first second found =>
    rcases crosses_of_firstOverlap? found with ⟨listed, crossed⟩
    have firstFound := mem_withPages (listed.subset List.mem_cons_self)
    have secondFound := mem_withPages (listed.subset (List.mem_cons_of_mem _ List.mem_cons_self))
    cases refused
    refine ⟨first.1, first.2, second.1, second.2,
      (listed.map Prod.fst).trans (withPages_sublist ops), firstFound, secondFound, ?_, rfl⟩
    rw [← crosses_eq_false_iff firstFound secondFound, crossed]
    nofun
  · cases refused

/-! ## What packaging makes of them -/

/-- Packaging looks at the writes of this plan: every region has its place, and
the manifest fits its page. -/
def Assembled (target : Target) (build : Build) (plan : WritePlan) : Prop :=
  ∃ regions ops, placeFirmware target build = .ok (regions, ops) ∧
    plan = proposal target build regions ops ∧ plan.manifest.fits = true

theorem Assembled.unique {target : Target} {build : Build} {plan other : WritePlan}
    (assembled : Assembled target build plan) (again : Assembled target build other) :
    plan = other := by
  rcases assembled with ⟨regions, ops, placed, rfl, -⟩
  rcases again with ⟨_, _, same, rfl, -⟩
  cases placed.symm.trans same
  rfl

/-- The write is that of a region which the cursor reaches and which ends behind
the last address. -/
structure PastEnd (target : Target) (build : Build) (op : WriteOp) : Prop where
  reached : ∃ slot front region, target = .user slot ∧ Reaches slot build front region op.address ∧
    Writes build.firmware region op
  past : Word.limit ≤ op.address.toNat + op.payload.size

end Package

/-- The refusal is about the addresses of writes. -/
def ValidationError.isSpatial : ValidationError -> Bool
  | slotBoundaryExceeded .. => true
  | overlap .. => true
  | _ => false

namespace Package

theorem assign_cursor_eq_invalid_iff {target : Target} {region : Region} {next : UInt32}
    {cause : ValidationError} :
    assign target region (some next) = .error (.invalid cause) ↔
      Word.limit ≤ next.toNat + region.size.toNat ∧
        cause = .slotBoundaryExceeded region.filename ⟨next, Word.greatest⟩ target := by
  constructor
  · intro failed
    unfold assign at failed
    dsimp only at failed
    split at failed
    · next behind =>
      cases failed
      exact ⟨Word.add?_eq_none_iff.mp behind, rfl⟩
    · split at failed <;> cases failed
  · rintro ⟨past, rfl⟩
    exact assign_of_past past

theorem isSpatial_of_choose {firmware : List Artifact} {region : Region} {cause : ValidationError}
    (failed : choose firmware region = .error (.invalid cause)) : cause.isSpatial = false := by
  unfold choose at failed
  split at failed
  · cases failed
    rfl
  · split at failed
    · cases failed
    · cases failed
      rfl

theorem isSpatial_of_checkRegionKinds {target : Target} {regions : List Region}
    {cause : ValidationError} (failed : checkRegionKinds target regions = .error cause) :
    cause.isSpatial = false := by
  unfold checkRegionKinds at failed
  split at failed
  · cases failed
    rfl
  · cases failed

/-- Without a cursor nothing is said about addresses. -/
theorem isSpatial_of_placeRegions {target : Target} {firmware : List Artifact}
    {regions : List Region} {cause : ValidationError}
    (failed : placeRegions target firmware none regions = .error (.invalid cause)) :
    cause.isSpatial = false := by
  -- By induction on the regions, as there is no cursor behind a region that had none.
  induction regions with
  | nil => cases failed
  | cons region rest ih =>
    simp only [placeRegions, bind_eq_error_iff] at failed
    rcases failed with missing | ⟨_, _, unplaced | ⟨⟨_, next⟩, assigned, later | ⟨_, _, ended⟩⟩⟩
    · exact isSpatial_of_choose missing
    · rcases assign_without_cursor target region with refused | ⟨_, kept⟩
      · cases refused.symm.trans unplaced
        rfl
      · cases kept.symm.trans unplaced
    · rcases assign_without_cursor target region with refused | ⟨_, kept⟩
      · cases refused.symm.trans assigned
      · cases kept.symm.trans assigned
        exact ih later
    · cases ended

/-- While the regions are placed, the only write that is refused for its
addresses is one that runs past the last of them. -/
theorem pastEnd_of_unplaced {target : Target} {build : Build} {cause : ValidationError}
    (unplaced : placeFirmware target build = .error (.invalid cause))
    (spatial : cause.isSpatial = true) :
    ∃ op, PastEnd target build op ∧
      cause = .slotBoundaryExceeded op.region op.shownRange target := by
  rcases placeFirmware_eq_error_iff.mp unplaced with ⟨refusal, failed, same⟩ | ⟨kinds, stuck⟩
  · cases same
    cases (isSpatial_of_checkRegionKinds failed).symm.trans spatial
  · cases target with
    | bootloader => cases (isSpatial_of_placeRegions stuck).symm.trans spatial
    | user slot =>
      rcases (placeRegions_eq_error_iff (dvd_firmwareBase slot)).mp stuck with
        ⟨front, region, back, start, listed, before, value, missing | ⟨supply, unassigned⟩⟩
      · cases (isSpatial_of_choose missing).symm.trans spatial
      · rcases assign_cursor_eq_invalid_iff.mp unassigned with ⟨past, rfl⟩
        have ⟨artifact, found, size⟩ := supply
        have reached : Reaches slot build front region start :=
          ⟨⟨back, listed⟩, checkRegionKinds_user_iff.mp kinds, before, supply, value⟩
        have writes : Writes build.firmware region
            ⟨region.filename, .raw, start, artifact.bytes⟩ :=
          ⟨rfl, rfl, ⟨artifact, Build.artifact?_eq_some_iff.mp found, rfl⟩, size⟩
        have behind : Word.limit ≤ start.toNat + artifact.bytes.size := size.symm ▸ past
        refine ⟨⟨region.filename, .raw, start, artifact.bytes⟩,
          ⟨⟨slot, front, region, rfl, reached, writes⟩, behind⟩, ?_⟩
        rw [WriteOp.shownRange_of_past behind]

theorem PastEnd.refused {target : Target} {build : Build} {op : WriteOp}
    (pastEnd : PastEnd target build op) :
    package target build =
      .error (.invalid (.slotBoundaryExceeded op.region op.shownRange target)) := by
  rcases pastEnd with ⟨⟨slot, front, region, rfl, reached, writes⟩, past⟩
  rw [WriteOp.shownRange_of_past past, writes.named]
  rw [writes.whole] at past
  exact package_of_unplaced (placeFirmware_of_reaches reached (assign_of_past past))

/-- The address itself is a word, so that there is an octet behind the last
one. -/
theorem PastEnd.leaves {target : Target} {build : Build} {op : WriteOp}
    (pastEnd : PastEnd target build op) : op.Leaves target := by
  have past := pastEnd.past
  have bounded := Word.toNat_lt_limit op.address
  have stop := Word.toNat_lt_limit target.stop
  refine ⟨op.address.toNat + op.payload.size - 1, ⟨by omega, by omega⟩, fun inside => ?_⟩
  omega

theorem assemble_eq_error_iff {target : Target} {build : Build} {regions : List Region}
    {ops : List WriteOp} {cause : ValidationError} (spatial : cause.isSpatial = true) :
    assemble target build regions ops = .error cause ↔
      (proposal target build regions ops).manifest.fits = true ∧
        (checkSlotBounds target (proposal target build regions ops).ops = .error cause ∨
          checkSlotBounds target (proposal target build regions ops).ops = .ok () ∧
            checkOverlaps (proposal target build regions ops).ops = .error cause) := by
  rw [assemble]
  change (if !(proposal target build regions ops).manifest.fits then _ else _) = _ ↔ _
  cases fits : (proposal target build regions ops).manifest.fits with
  | false =>
    constructor
    · intro failed
      cases failed
      cases spatial
    · rintro ⟨impossible, _⟩
      cases impossible
  | true =>
    change (checkSlotBounds target (proposal target build regions ops).ops >>= fun _ =>
      checkOverlaps (proposal target build regions ops).ops >>= fun _ =>
        .ok (proposal target build regions ops)) = _ ↔ _
    simp only [bind_eq_error_iff, true_and]
    constructor
    · rintro (outside | ⟨_, inside, crossing | ⟨_, _, impossible⟩⟩)
      · exact .inl outside
      · exact .inr ⟨inside, crossing⟩
      · cases impossible
    · rintro (outside | ⟨inside, crossing⟩)
      · exact .inl outside
      · exact .inr ⟨(), inside, .inl crossing⟩

/-- A refusal for addresses comes from the cursor or from one of the checks. -/
theorem package_eq_spatial_iff {target : Target} {build : Build} {cause : ValidationError}
    (spatial : cause.isSpatial = true) :
    package target build = .error (.invalid cause) ↔
      (∃ op, PastEnd target build op ∧
        cause = .slotBoundaryExceeded op.region op.shownRange target) ∨
      ∃ plan, Assembled target build plan ∧ (checkSlotBounds target plan.ops = .error cause ∨
        checkSlotBounds target plan.ops = .ok () ∧ checkOverlaps plan.ops = .error cause) := by
  constructor
  · intro failed
    unfold package at failed
    split at failed
    · next unplaced =>
      cases failed
      exact .inl (pastEnd_of_unplaced unplaced spatial)
    · next regions ops placed =>
      split at failed
      · next refused =>
        cases failed
        rcases (assemble_eq_error_iff spatial).mp refused with ⟨fits, checked⟩
        exact .inr ⟨_, ⟨regions, ops, placed, rfl, fits⟩, checked⟩
      · cases failed
  · rintro (⟨op, pastEnd, rfl⟩ | ⟨_, ⟨regions, ops, placed, rfl, fits⟩, checked⟩)
    · exact pastEnd.refused
    · rw [package, placed]
      dsimp only
      rw [(assemble_eq_error_iff spatial).mpr ⟨fits, checked⟩]

/-- An empty write stands outside the slot, or amid the pages of another write
of the list. -/
inductive Misplaced (target : Target) (ops : List WriteOp) : Prop
  | outside (op : WriteOp) (listed : op ∈ ops) (empty : op.payload.size = 0)
      (beyond : ¬ (target.base.toNat ≤ op.address.toNat ∧
        op.address.toNat ≤ target.stop.toNat))
  | amid (op other : WriteOp)
      (listed : [op, other].Sublist ops ∨ [other, op].Sublist ops)
      (empty : op.payload.size = 0) (amid : op.Amid other)

/-- The build is refused for the addresses of its writes. -/
def RefusedForSpace (target : Target) (build : Build) : Prop :=
  ∃ cause, cause.isSpatial = true ∧ package target build = .error (.invalid cause)

/-- No write leaves the slot, and no two writes share a page. -/
structure Tidy (target : Target) (ops : List WriteOp) : Prop where
  inside : ∀ op ∈ ops, ¬ op.Leaves target
  separate : ops.Pairwise fun first second => ¬ first.Meets second

/-- The checks pass exactly for writes that are tidy and have no misplaced one
among them. -/
theorem passes_iff {target : Target} {ops : List WriteOp} :
    (∀ op ∈ ops, op.InSlot target) ∧ ops.Pairwise WriteOp.Apart ↔
      Tidy target ops ∧ ¬ Misplaced target ops := by
  constructor
  · rintro ⟨inside, apart⟩
    refine ⟨⟨fun op listed leaves => ?_, apart.imp fun apart meets => meets.not_apart apart⟩, ?_⟩
    · exact (WriteOp.leaves_iff leaves.nonempty).mp leaves (inside op listed)
    · rintro (⟨op, listed, empty, outside⟩ | ⟨op, other, listed, empty, amid⟩)
      · exact outside ((WriteOp.inSlot_iff_of_empty empty).mp (inside op listed))
      · have separate : op.Apart other := by
          rcases listed with before | behind
          · exact List.pairwise_iff_forall_sublist.mp apart before
          · exact (List.pairwise_iff_forall_sublist.mp apart behind).symm
        exact (WriteOp.apart_iff_of_empty empty).mp separate amid
  · rintro ⟨tidy, placed⟩
    -- Where there are octets they decide, and an empty write has to be placed well instead.
    refine ⟨?_, List.pairwise_iff_forall_sublist.mpr ?_⟩
    · intro op listed
      by_cases empty : op.payload.size = 0
      · rw [WriteOp.inSlot_iff_of_empty empty]
        exact Decidable.byContradiction fun outside =>
          placed (.outside op listed empty outside)
      · exact not_not.mp (mt (WriteOp.leaves_iff empty).mpr (tidy.inside op listed))
    · intro first second listed
      have separate := List.pairwise_iff_forall_sublist.mp tidy.separate listed
      by_cases firstEmpty : first.payload.size = 0
      · rw [WriteOp.apart_iff_of_empty firstEmpty]
        exact fun amid => placed (.amid first second (.inl listed) firstEmpty amid)
      · by_cases secondEmpty : second.payload.size = 0
        · apply WriteOp.Apart.symm
          rw [WriteOp.apart_iff_of_empty secondEmpty]
          exact fun amid => placed (.amid second first (.inr listed) secondEmpty amid)
        · exact not_not.mp (mt (WriteOp.meets_iff firstEmpty secondEmpty).mpr separate)

/-- One of the checks fails exactly if a write leaves the slot, two writes share
a page, or an empty write is misplaced. -/
theorem checks_fail_iff (target : Target) (ops : List WriteOp) :
    (∃ cause : ValidationError, cause.isSpatial = true ∧
        (checkSlotBounds target ops = .error cause ∨
          checkSlotBounds target ops = .ok () ∧ checkOverlaps ops = .error cause)) ↔
      ¬ Tidy target ops ∨ Misplaced target ops := by
  rw [← not_not (a := Misplaced target ops), ← not_and_or, ← passes_iff]
  constructor
  · rintro ⟨cause, _, bounds | ⟨_, overlaps⟩⟩ ⟨inside, apart⟩
    · cases bounds.symm.trans (checkSlotBounds_eq_ok_iff.mpr inside)
    · cases overlaps.symm.trans
        ((checkOverlaps_eq_ok_iff fun op listed => (inside op listed).1).mpr apart)
  · intro failed
    cases bounds : checkSlotBounds target ops with
    | error cause =>
      rcases checkSlotBounds_eq_error_iff.mp bounds with ⟨_, op, _, _, _, _, rfl⟩
      exact ⟨_, rfl, .inl rfl⟩
    | ok _ =>
      have inside := checkSlotBounds_eq_ok_iff.mp bounds
      cases overlaps : checkOverlaps ops with
      | error cause =>
        rcases crossing_of_checkOverlaps overlaps with ⟨first, _, second, _, _, _, _, _, rfl⟩
        exact ⟨_, rfl, .inr ⟨rfl, rfl⟩⟩
      | ok _ =>
        have apart := (checkOverlaps_eq_ok_iff fun op listed => (inside op listed).1).mp overlaps
        exact absurd ⟨inside, apart⟩ failed

/-- A report that two writes share a page names two writes of the assembled
plan, and a report that a write leaves the slot names one of them or the one
behind the last address.  What the report says of them is true exactly if they
are not empty.  So a build is refused for its addresses exactly if a write
leaves the slot, two writes share a page, or an empty write is misplaced. -/
theorem refusals_true_iff (target : Target) (build : Build) :
    (∀ firstName firstPages secondName secondPages,
      package target build =
          .error (.invalid (.overlap firstName firstPages secondName secondPages)) ->
        ∃ plan first second, Assembled target build plan ∧ [first, second].Sublist plan.ops ∧
          first.region = firstName ∧ first.pageSpan? = some firstPages ∧
          second.region = secondName ∧ second.pageSpan? = some secondPages ∧
          (first.Meets second ↔ first.payload.size ≠ 0 ∧ second.payload.size ≠ 0)) ∧
    (∀ name range slot,
      package target build = .error (.invalid (.slotBoundaryExceeded name range slot)) ->
        slot = target ∧ ∃ op,
          ((∃ plan, Assembled target build plan ∧ op ∈ plan.ops) ∨ PastEnd target build op) ∧
          op.region = name ∧ op.shownRange = range ∧
          (op.Leaves target ↔ op.payload.size ≠ 0)) ∧
    (RefusedForSpace target build ↔
      (∃ op, PastEnd target build op ∧ op.Leaves target) ∨
      ∃ plan, Assembled target build plan ∧
        (¬ Tidy target plan.ops ∨ Misplaced target plan.ops)) := by
  refine ⟨?_, ?_, ?_⟩
  · intro firstName firstPages secondName secondPages refused
    rcases (package_eq_spatial_iff rfl).mp refused with
      ⟨_, _, impossible⟩ | ⟨plan, assembled, bounds | ⟨_, overlaps⟩⟩
    · cases impossible
    · rcases checkSlotBounds_eq_error_iff.mp bounds with ⟨_, _, _, _, _, _, impossible⟩
      cases impossible
    · rcases crossing_of_checkOverlaps overlaps with
        ⟨first, _, second, _, listed, firstFound, secondFound, crossing, same⟩
      cases same
      refine ⟨plan, first, second, assembled, listed, rfl, firstFound, rfl, secondFound,
        WriteOp.Meets.nonempty, ?_⟩
      rintro ⟨firstFull, secondFull⟩
      exact (WriteOp.meets_iff firstFull secondFull).mpr crossing
  · intro name range slot refused
    rcases (package_eq_spatial_iff rfl).mp refused with
      ⟨op, pastEnd, same⟩ | ⟨plan, assembled, bounds | ⟨_, overlaps⟩⟩
    · cases same
      exact ⟨rfl, op, .inr pastEnd, rfl, rfl, WriteOp.Leaves.nonempty, fun _ => pastEnd.leaves⟩
    · rcases checkSlotBounds_eq_error_iff.mp bounds with
        ⟨front, op, back, split, _, outside, same⟩
      cases same
      have listed : op ∈ plan.ops := split ▸ List.mem_append_right _ List.mem_cons_self
      exact ⟨rfl, op, .inl ⟨plan, assembled, listed⟩, rfl, rfl, WriteOp.Leaves.nonempty,
        fun full => (WriteOp.leaves_iff full).mpr outside⟩
    · rcases crossing_of_checkOverlaps overlaps with ⟨_, _, _, _, _, _, _, _, impossible⟩
      cases impossible
  · constructor
    · rintro ⟨cause, spatial, refused⟩
      rcases (package_eq_spatial_iff spatial).mp refused with
        ⟨op, pastEnd, _⟩ | ⟨plan, assembled, checked⟩
      · exact .inl ⟨op, pastEnd, pastEnd.leaves⟩
      · have failed := (checks_fail_iff target plan.ops).mp ⟨cause, spatial, checked⟩
        exact .inr ⟨plan, assembled, failed⟩
    · rintro (⟨op, pastEnd, _⟩ | ⟨plan, assembled, failed⟩)
      · exact ⟨_, rfl, pastEnd.refused⟩
      · rcases (checks_fail_iff target plan.ops).mpr failed with ⟨cause, spatial, checked⟩
        exact ⟨cause, spatial,
          (package_eq_spatial_iff spatial).mpr (.inr ⟨plan, assembled, checked⟩)⟩

/-! ## A region inside the page of another one -/

/-- A build for the bootloader slot with three octets of firmware, and a second
region at this address. -/
def paddedBuild (address : UInt32) (pad : ByteArray) : Build where
  bitstream := ⟨#[1, 2, 3]⟩
  firmware := [⟨"fw.bin", ⟨#[7, 8, 9]⟩⟩, ⟨"pad.bin", pad⟩]
  manifest := ⟨"BOOT", none, none, none, none, none,
    [⟨"fw.bin", 3, .executeInPlace, some 0xB0010⟩,
      ⟨"pad.bin", UInt32.ofNat pad.size, .executeInPlace, some address⟩]⟩

def paddedPlan (address : UInt32) (pad : ByteArray) : WritePlan :=
  proposal .bootloader (paddedBuild address pad) (paddedBuild address pad).manifest.regions
    [⟨"fw.bin", .raw, 0xB0010, ⟨#[7, 8, 9]⟩⟩, ⟨"pad.bin", .raw, address, pad⟩]

/-- An empty second region does no harm, wherever it stands. -/
theorem tidy_paddedPlan {address : UInt32}
    (fits : (paddedPlan address ⟨#[]⟩).manifest.fits = true) :
    Tidy .bootloader (paddedPlan address ⟨#[]⟩).ops := by
  have small : (paddedPlan address ⟨#[]⟩).manifest.toJson.size ≤ 1024 := of_decide_eq_true fits
  have ops : (paddedPlan address ⟨#[]⟩).ops = [⟨"bitstream", .bit, 0, ⟨#[1, 2, 3]⟩⟩,
    ⟨"fw.bin", .raw, 0xB0010, ⟨#[7, 8, 9]⟩⟩, ⟨"pad.bin", .raw, address, ⟨#[]⟩⟩,
    manifestOp .bootloader (paddedPlan address ⟨#[]⟩).manifest] := rfl
  have last : (manifestOp .bootloader (paddedPlan address ⟨#[]⟩).manifest).address = 0xFFC00 := rfl
  rw [ops]
  constructor
  · simp only [List.forall_mem_cons]
    refine ⟨?_, ?_, ?_, ?_, nofun⟩
    · exact WriteOp.not_leaves_of_le (by decide) (by decide)
    · exact WriteOp.not_leaves_of_le (by decide) (by decide)
    · exact fun leaves => leaves.nonempty rfl
    · refine WriteOp.not_leaves_of_le (Nat.zero_le _) ?_
      rw [last]
      exact Nat.add_le_add_left small 0xFFC00
  · simp only [List.pairwise_cons, List.forall_mem_cons]
    refine ⟨⟨?_, ?_, ?_, nofun⟩, ⟨?_, ?_, nofun⟩, ⟨?_, nofun⟩, nofun, .nil⟩
    · exact fun meets => meets.not_apart (.inl (by decide))
    · exact fun meets => meets.nonempty.2 rfl
    · refine fun meets => meets.not_apart (.inl ?_)
      rw [last]
      decide
    · exact fun meets => meets.nonempty.2 rfl
    · refine fun meets => meets.not_apart (.inl ?_)
      rw [last]
      decide
    · exact fun meets => meets.nonempty.1 rfl

set_option maxRecDepth 2000 in
theorem full_paddedPlan :
    (∀ op ∈ (paddedPlan 0xB0200 ⟨#[5]⟩).ops, op.payload.size ≠ 0) ∧
      ∀ op ∈ (paddedPlan 0x100000 ⟨#[5]⟩).ops, op.payload.size ≠ 0 := by
  decide +kernel

set_option maxRecDepth 2000 in
/-- With one octet in it, the second region shares the page of the first, and
behind the slot it leaves the slot. -/
theorem fullRegion_refused_truly :
    (package .bootloader (paddedBuild 0xB0200 ⟨#[5]⟩) =
        .error (.invalid (.overlap "fw.bin" ⟨0xB0000, 0xB0400⟩ "pad.bin" ⟨0xB0000, 0xB0400⟩)) ∧
      ∃ first second : WriteOp, [first, second].Sublist (paddedPlan 0xB0200 ⟨#[5]⟩).ops ∧
        first.region = "fw.bin" ∧ second.region = "pad.bin" ∧ first.Meets second) ∧
    package .bootloader (paddedBuild 0x100000 ⟨#[5]⟩) =
        .error (.invalid (.slotBoundaryExceeded "pad.bin" ⟨0x100000, 0x100001⟩ .bootloader)) ∧
      ∃ op : WriteOp, op.region = "pad.bin" ∧ op.Leaves .bootloader := by
  have inner : Assembled .bootloader (paddedBuild 0xB0200 ⟨#[5]⟩) (paddedPlan 0xB0200 ⟨#[5]⟩) :=
    ⟨_, _, rfl, rfl, by cbv⟩
  have outer : Assembled .bootloader (paddedBuild 0x100000 ⟨#[5]⟩) (paddedPlan 0x100000 ⟨#[5]⟩) :=
    ⟨_, _, rfl, rfl, by cbv⟩
  have overlap : package .bootloader (paddedBuild 0xB0200 ⟨#[5]⟩) =
      .error (.invalid (.overlap "fw.bin" ⟨0xB0000, 0xB0400⟩ "pad.bin" ⟨0xB0000, 0xB0400⟩)) :=
    (package_eq_spatial_iff rfl).mpr (.inr ⟨_, inner, .inr ⟨by cbv, by cbv⟩⟩)
  have exceeded : package .bootloader (paddedBuild 0x100000 ⟨#[5]⟩) =
      .error (.invalid (.slotBoundaryExceeded "pad.bin" ⟨0x100000, 0x100001⟩ .bootloader)) :=
    (package_eq_spatial_iff rfl).mpr (.inr ⟨_, outer, .inl (by cbv)⟩)
  rcases (refusals_true_iff _ _).1 _ _ _ _ overlap with
    ⟨plan, first, second, assembled, listed, firstNamed, _, secondNamed, _, shared⟩
  rcases (refusals_true_iff _ _).2.1 _ _ _ exceeded with ⟨_, op, placed, named, _, left⟩
  cases assembled.unique inner
  have firstFull := full_paddedPlan.1 first (listed.subset List.mem_cons_self)
  have secondFull :=
    full_paddedPlan.1 second (listed.subset (List.mem_cons_of_mem _ List.mem_cons_self))
  refine ⟨⟨overlap, first, second, listed, firstNamed, secondNamed,
    shared.mpr ⟨firstFull, secondFull⟩⟩, exceeded, op, named, ?_⟩
  rcases placed with ⟨_, assembled, member⟩ | pastEnd
  · cases assembled.unique outer
    exact left.mpr (full_paddedPlan.2 op member)
  · exact pastEnd.leaves

set_option maxRecDepth 2000 in
/-- Without an octet it is refused in the same places, although nothing leaves
the slot and no two writes share a page. -/
theorem emptyRegion_refused :
    (package .bootloader (paddedBuild 0xB0200 ⟨#[]⟩) =
        .error (.invalid (.overlap "fw.bin" ⟨0xB0000, 0xB0400⟩ "pad.bin" ⟨0xB0000, 0xB0400⟩)) ∧
      ∃ plan, Assembled .bootloader (paddedBuild 0xB0200 ⟨#[]⟩) plan ∧
        Tidy .bootloader plan.ops) ∧
    package .bootloader (paddedBuild 0x200000 ⟨#[]⟩) =
        .error (.invalid (.slotBoundaryExceeded "pad.bin" ⟨0x200000, 0x200000⟩ .bootloader)) ∧
      ∃ plan, Assembled .bootloader (paddedBuild 0x200000 ⟨#[]⟩) plan ∧
        Tidy .bootloader plan.ops := by
  have inner : Assembled .bootloader (paddedBuild 0xB0200 ⟨#[]⟩) (paddedPlan 0xB0200 ⟨#[]⟩) :=
    ⟨_, _, rfl, rfl, by cbv⟩
  have outer : Assembled .bootloader (paddedBuild 0x200000 ⟨#[]⟩) (paddedPlan 0x200000 ⟨#[]⟩) :=
    ⟨_, _, rfl, rfl, by cbv⟩
  refine ⟨⟨(package_eq_spatial_iff rfl).mpr (.inr ⟨_, inner, .inr ⟨?_, ?_⟩⟩), _, inner, ?_⟩,
    (package_eq_spatial_iff rfl).mpr (.inr ⟨_, outer, .inl ?_⟩), _, outer, ?_⟩
  · cbv
  · cbv
  · exact tidy_paddedPlan (by cbv)
  · cbv
  · exact tidy_paddedPlan (by cbv)

end Package
end FlashSlots
