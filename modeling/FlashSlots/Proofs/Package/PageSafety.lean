import Mathlib
import FlashSlots.Proofs.Package.Guarantees

namespace FlashSlots

open Layout (Span Target)
open Flash (Image)
open Flash.Image (pageStart pageStop)

/-!
# Which pages a plan affects

Flash is erased page by page, so that a write is only safe if nothing else has
a part in its pages.  A plan is safe in this sense: the pages of each of its
writes lie in its slot, and no page belongs to two of its writes.  Empty writes
and writes between page boundaries are no exception, and it makes no difference
where the addresses come from.
-/

namespace WriteOp

theorem contains_iff_touches {op : WriteOp} {pages : Span} (found : op.pageSpan? = some pages)
    {address : Nat} : pages.Contains address ↔ op.Touches address := by
  rcases pageSpan?_eq_some_iff.mp found with ⟨_, start, stop⟩
  rw [Span.Contains, start, stop]
  rfl

/-- Pages start at or below a write, stop at or above it, and are rounded to
page boundaries. -/
theorem pages_of_range {op : WriteOp} {range pages : Span} (ranged : op.range? = some range)
    (found : op.pageSpan? = some pages) :
    pages.start = Layout.alignDown range.start ∧ Layout.alignUp? range.stop = some pages.stop ∧
      pages.start ≤ range.start ∧ range.stop ≤ pages.stop := by
  rcases range?_eq_some_iff.mp ranged with ⟨first, last⟩
  rcases pageSpan?_eq_some_iff.mp found with ⟨_, start, stop⟩
  rw [← first] at start
  rw [← last] at stop
  refine ⟨?_, Layout.alignUp?_eq_some_iff.mpr stop, ?_, ?_⟩
  · rw [← UInt32.toNat_inj, start, Layout.toNat_alignDown]
    rfl
  · rw [UInt32.le_iff_toNat_le, start]
    exact Flash.Image.pageStart_le _
  · rw [UInt32.le_iff_toNat_le, stop]
    exact Flash.Image.le_pageStop _

/-- Writes that are apart have no page in common, not only no octet. -/
theorem Apart.page_ne {first second : WriteOp} (apart : first.Apart second)
    {address other : Nat} (firstTouches : first.Touches address)
    (secondTouches : second.Touches other) :
    address / Layout.pageSize ≠ other / Layout.pageSize := by
  simp only [Apart, pageStop, pageStart, Layout.pageSize] at apart ⊢
  simp only [Touches, pageStop, pageStart, Layout.pageSize] at firstTouches secondTouches
  omega

/-- A write in a slot has a range and pages, and both lie in the slot. -/
theorem InSlot.spans {target : Target} {op : WriteOp} (inside : op.InSlot target) :
    ∃ range pages, op.range? = some range ∧ op.pageSpan? = some pages ∧
      pages.start = Layout.alignDown range.start ∧ Layout.alignUp? range.stop = some pages.stop ∧
      target.contains range = true ∧ target.contains pages = true := by
  rcases range?_of_onChip inside.1 with ⟨range, ranged⟩
  rcases pageSpan?_of_onChip inside.1 with ⟨pages, found⟩
  rcases pages_of_range ranged found with ⟨down, up, below, above⟩
  have fits := Package.fitsSlot_iff.mpr inside
  have pagesInside : target.contains pages = true := by
    rw [Package.fitsSlot, found] at fits
    exact fits
  have bounds : target.base ≤ pages.start ∧ pages.stop ≤ target.stop := by
    simpa only [Target.contains, Bool.and_eq_true, decide_eq_true_eq] using pagesInside
  have rangeInside : target.contains range = true := by
    simp only [Target.contains, Bool.and_eq_true, decide_eq_true_eq]
    exact ⟨UInt32.le_trans bounds.1 below, UInt32.le_trans above bounds.2⟩
  exact ⟨range, pages, ranged, found, down, up, rangeInside, pagesInside⟩

end WriteOp

namespace Package

/-- Every write of a plan has a range of addresses and a range of pages in the
slot of the plan, and programming it succeeds and leaves everything outside
these pages alone.  Its pages belong to no other slot, and a write at another
position of the plan has neither an address nor a page in common with them. -/
theorem pages_of_plan {target : Target} {build : Build} {plan : WritePlan}
    (packaged : package target build = .ok plan) :
    (∀ op ∈ plan.ops, ∃ range pages, op.range? = some range ∧ op.pageSpan? = some pages ∧
      pages.start = Layout.alignDown range.start ∧ Layout.alignUp? range.stop = some pages.stop ∧
      target.contains range = true ∧ target.contains pages = true ∧
      (∀ image : Image, ∃ after, image.program op.address op.payload = .ok after ∧
        ∀ address inside, ¬ pages.Contains address ->
          after.get address inside = image.get address inside) ∧
      ∀ address, pages.Contains address -> ∀ other : Target, other ≠ target ->
        ¬ (other.base.toNat ≤ address ∧ address < other.stop.toNat)) ∧
    ∀ i j (first : i < plan.ops.length) (second : j < plan.ops.length), i < j ->
      ∀ firstPages secondPages, plan.ops[i].pageSpan? = some firstPages ->
        plan.ops[j].pageSpan? = some secondPages ->
          (∀ address, ¬ (firstPages.Contains address ∧ secondPages.Contains address)) ∧
          ∀ address other, firstPages.Contains address -> secondPages.Contains other ->
            address / Layout.pageSize ≠ other / Layout.pageSize := by
  constructor
  · intro op listed
    have inSlot := inSlot_of_package packaged op listed
    rcases inSlot.spans with ⟨range, pages, ranged, found, down, up, rangeInside, pagesInside⟩
    refine ⟨range, pages, ranged, found, down, up, rangeInside, pagesInside, ?_, ?_⟩
    · intro image
      rcases image.program_ok inSlot.1 with ⟨after, done⟩
      refine ⟨after, done, ?_⟩
      intro address inside outside
      rw [Image.get_program done, if_neg (mt (WriteOp.contains_iff_touches found).mpr outside)]
    · intro address contained other different inOther
      have touched := (WriteOp.contains_iff_touches found).mp contained
      exact different (Target.eq_of_inside inOther (inSlot.of_touches touched))
  · intro i j first second ordered firstPages secondPages firstFound secondFound
    have apart := List.pairwise_iff_getElem.mp (apart_of_package packaged) i j first second ordered
    have pages : ∀ address other, firstPages.Contains address -> secondPages.Contains other ->
        address / Layout.pageSize ≠ other / Layout.pageSize := by
      intro address other inFirst inSecond
      exact apart.page_ne ((WriteOp.contains_iff_touches firstFound).mp inFirst)
        ((WriteOp.contains_iff_touches secondFound).mp inSecond)
    refine ⟨?_, pages⟩
    intro address both
    exact pages address address both.1 both.2 rfl

/-- A build for the bootloader slot with a region between page boundaries and
an empty one right behind its page. -/
def unevenBuild : Build where
  bitstream := ⟨#[1, 2, 3]⟩
  firmware := [⟨"fw.bin", ⟨#[7, 8, 9]⟩⟩, ⟨"pad.bin", ⟨#[]⟩⟩]
  manifest := ⟨"BOOT", none, none, none, none, none,
    [⟨"fw.bin", 3, .executeInPlace, some 0xB0010⟩, ⟨"pad.bin", 0, .executeInPlace, some 0xB0400⟩]⟩

def unevenPlan : WritePlan :=
  proposal .bootloader unevenBuild unevenBuild.manifest.regions
    [⟨"fw.bin", .raw, 0xB0010, ⟨#[7, 8, 9]⟩⟩, ⟨"pad.bin", .raw, 0xB0400, ⟨#[]⟩⟩]

set_option maxRecDepth 2000 in
theorem firstOverlap?_unevenPlan : firstOverlap? (withPages unevenPlan.ops) = none := by
  cbv

theorem package_unevenBuild : package .bootloader unevenBuild = .ok unevenPlan := by
  have overlaps : checkOverlaps unevenPlan.ops = .ok () := by
    rw [checkOverlaps, firstOverlap?_unevenPlan]
  exact package_of_checks rfl (by cbv) (by cbv) overlaps

theorem pages_of_unevenPlan :
    package .bootloader unevenBuild = .ok unevenPlan ∧
      (unevenPlan.ops[1].pageSpan? = some ⟨0xB0000, 0xB0400⟩ ∧
        unevenPlan.ops[2].pageSpan? = some ⟨0xB0400, 0xB0400⟩) ∧
      (∀ address, ¬ ((⟨0xB0000, 0xB0400⟩ : Span).Contains address ∧
        (⟨0xB0400, 0xB0400⟩ : Span).Contains address)) ∧
      ∀ op ∈ unevenPlan.ops, ∃ pages, op.pageSpan? = some pages ∧
        Target.contains .bootloader pages = true := by
  rcases pages_of_plan package_unevenBuild with ⟨inSlot, separate⟩
  have uneven : unevenPlan.ops[1].pageSpan? = some ⟨0xB0000, 0xB0400⟩ := by cbv
  have empty : unevenPlan.ops[2].pageSpan? = some ⟨0xB0400, 0xB0400⟩ := by cbv
  refine ⟨package_unevenBuild, ⟨uneven, empty⟩, ?_, ?_⟩
  · exact (separate 1 2 (by decide) (by decide) (by decide) _ _ uneven empty).1
  · intro op listed
    rcases inSlot op listed with ⟨_, pages, _, found, _, _, _, inside, _⟩
    exact ⟨pages, found, inside⟩

end Package
end FlashSlots
