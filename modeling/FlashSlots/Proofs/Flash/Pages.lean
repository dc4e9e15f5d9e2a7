import FlashSlots.Proofs.Flash.Programming

namespace FlashSlots

open Layout (Span Target)
open Flash.Image (pageStart pageStop)

/-!
# The pages of a write

The pages of a write are found with 32-bit spans that need not exist.  Here they
are moved to natural numbers: a write that ends on the chip has its pages, it
lies in a slot if they do, and two writes are apart if the pages of one stop
before those of the other start.
-/

namespace WriteOp

/-- The pages of one write stop before those of the other start. -/
def Apart (first second : WriteOp) : Prop :=
  pageStop (first.address.toNat + first.payload.size) ≤ pageStart second.address.toNat ∨
    pageStop (second.address.toNat + second.payload.size) ≤ pageStart first.address.toNat

theorem Apart.symm {first second : WriteOp} (apart : first.Apart second) : second.Apart first :=
  Or.symm apart

theorem Apart.not_touches {first second : WriteOp} (apart : first.Apart second) {address : Nat}
    (touched : first.Touches address) : ¬ second.Touches address := by
  intro both
  rcases touched with ⟨firstLow, firstHigh⟩
  rcases both with ⟨secondLow, secondHigh⟩
  rcases apart with before | behind <;> omega

theorem toNat_sub_of_range {op : WriteOp} {range : Span} (found : op.range? = some range) :
    (range.stop - range.start).toNat = op.payload.size := by
  rcases range?_eq_some_iff.mp found with ⟨start, stop⟩
  have ordered : range.start ≤ range.stop := by
    rw [UInt32.le_iff_toNat_le, start, stop]
    exact Nat.le_add_right _ _
  rw [UInt32.toNat_sub_of_le _ _ ordered, stop, start, Nat.add_sub_cancel_left]

theorem range?_of_onChip {op : WriteOp} (onChip : op.OnChip) : ∃ range, op.range? = some range := by
  have stop := Word.toNat_ofNat (Nat.lt_of_le_of_lt onChip (by decide))
  exact ⟨⟨op.address, UInt32.ofNat (op.address.toNat + op.payload.size)⟩,
    range?_eq_some_iff.mpr ⟨rfl, stop⟩⟩

theorem pageSpan?_eq_some_iff {op : WriteOp} {span : Span} :
    op.pageSpan? = some span ↔ op.OnChip ∧ span.start.toNat = pageStart op.address.toNat ∧
      span.stop.toNat = pageStop (op.address.toNat + op.payload.size) := by
  by_cases onChip : op.OnChip
  · rcases range?_of_onChip onChip with ⟨range, found⟩
    rcases range?_eq_some_iff.mp found with ⟨start, stop⟩
    have length := toNat_sub_of_range found
    have last : Word.add? range.start (range.stop - range.start) = some range.stop := by
      rw [Word.add?_eq_some_iff, length, stop, start]
    have inside : range.stop.toNat ≤ Layout.flashSize := by
      rw [stop]
      exact onChip
    have ends : pageStop range.stop.toNat < Word.limit :=
      Nat.lt_of_le_of_lt (Flash.Image.pageStop_le_flashSize inside) (by decide)
    have up : Layout.alignUp? range.stop = some (UInt32.ofNat (pageStop range.stop.toNat)) :=
      Layout.alignUp?_eq_some_iff.mpr (Word.toNat_ofNat ends)
    have pages : op.pageSpan? =
        some ⟨Layout.alignDown range.start, UInt32.ofNat (pageStop range.stop.toNat)⟩ := by
      rw [pageSpan?, found, Option.bind_eq_bind, Option.bind_some, if_pos inside,
        Layout.pageSpan?, last, Option.bind_eq_bind, Option.bind_some, up, Option.bind_some]
      rfl
    rcases span with ⟨first, behind⟩
    rw [pages, Option.some.injEq, Span.mk.injEq, ← UInt32.toNat_inj, ← UInt32.toNat_inj,
      Layout.toNat_alignDown, Word.toNat_ofNat ends, stop, start]
    constructor
    · intro same
      exact ⟨onChip, same.1.symm, same.2.symm⟩
    · intro same
      exact ⟨same.2.1.symm, same.2.2.symm⟩
  · constructor
    · intro found
      exfalso
      unfold pageSpan? at found
      cases ranged : op.range? with
      | none =>
        rw [ranged] at found
        cases found
      | some range =>
        rw [ranged, Option.bind_eq_bind, Option.bind_some, if_neg] at found
        · cases found
        · rw [(range?_eq_some_iff.mp ranged).2]
          exact onChip
    · intro impossible
      exact absurd impossible.1 onChip

/-- A write on the chip has pages. -/
theorem pageSpan?_of_onChip {op : WriteOp} (onChip : op.OnChip) :
    ∃ span, op.pageSpan? = some span := by
  have ordered := Nat.le_trans (Flash.Image.pageStart_le op.address.toNat)
    (Nat.le_add_right op.address.toNat op.payload.size)
  have start : pageStart op.address.toNat < Word.limit :=
    Nat.lt_of_le_of_lt (Nat.le_trans ordered onChip) (by decide)
  have stop : pageStop (op.address.toNat + op.payload.size) < Word.limit :=
    Nat.lt_of_le_of_lt (Flash.Image.pageStop_le_flashSize onChip) (by decide)
  exact ⟨⟨UInt32.ofNat _, UInt32.ofNat _⟩,
    pageSpan?_eq_some_iff.mpr ⟨onChip, Word.toNat_ofNat start, Word.toNat_ofNat stop⟩⟩

/-- The pages of the write lie between the ends of the slot. -/
def InSlot (target : Target) (op : WriteOp) : Prop :=
  op.OnChip ∧ target.base.toNat ≤ pageStart op.address.toNat ∧
    pageStop (op.address.toNat + op.payload.size) ≤ target.stop.toNat

/-- No slot reaches beyond the chip. -/
theorem InSlot.of_pages {target : Target} {op : WriteOp}
    (start : target.base.toNat ≤ pageStart op.address.toNat)
    (stop : pageStop (op.address.toNat + op.payload.size) ≤ target.stop.toNat) :
    op.InSlot target :=
  ⟨Nat.le_trans (Flash.Image.le_pageStop _) (Nat.le_trans stop target.stop_le_flashSize),
    start, stop⟩

/-- A write that fits a slot touches nothing outside it. -/
theorem InSlot.of_touches {target : Target} {op : WriteOp} (inside : op.InSlot target)
    {address : Nat} (touched : op.Touches address) :
    target.base.toNat ≤ address ∧ address < target.stop.toNat :=
  ⟨Nat.le_trans inside.2.1 touched.1, Nat.lt_of_lt_of_le touched.2 inside.2.2⟩

end WriteOp
end FlashSlots
