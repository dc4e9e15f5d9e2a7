import FlashSlots.Flash.ImageProgrammer
import FlashSlots.Proofs.Flash.Programming

namespace FlashSlots
namespace Flash
namespace Image

/-!
# What one write changes

A write is meant to change the pages that hold one of its octets and nothing
else: there the payload stands in its place and the rest is erased.  The pages
to erase are found by rounding both ends of the payload, and that gives the
same pages as long as there is an octet to write, or the ends are page
boundaries.  Between two boundaries an empty payload is rounded to a whole
page, which is erased although nothing is written to it.
-/

/-- The payload has an octet for this address. -/
def Covers (offset : UInt32) (size address : Nat) : Prop :=
  offset.toNat ≤ address ∧ address < offset.toNat + size

/-- The page of this address has an octet of the payload. -/
def SharesPage (offset : UInt32) (size address : Nat) : Prop :=
  ∃ written, Covers offset size written ∧
    written / Layout.pageSize = address / Layout.pageSize

/-- The payload stands in its place, the pages that it shares are erased around
it, and all other pages are as before. -/
structure Places (image next : Image) (offset : UInt32) (payload : ByteArray) : Prop where
  written : ∀ index (listed : index < payload.size) (inside : offset.toNat + index < _),
    next.get (offset.toNat + index) inside = payload[index]
  erased : ∀ address inside, SharesPage offset payload.size address ->
    ¬ Covers offset payload.size address -> next.get address inside = erasedByte
  kept : ∀ address inside, ¬ SharesPage offset payload.size address ->
    next.get address inside = image.get address inside

/-- Programming has the effect that it is meant to have, or is refused and
leaves the chip of the programmer as it was. -/
structure TakesEffect (image : Image) (offset : UInt32) (payload : ByteArray) : Prop where
  refused : Layout.flashSize < offset.toNat + payload.size ->
    image.program offset payload = .error ⟨offset, payload.size⟩ ∧
      ∀ kind tree loaded, ImageProgrammer.write .persistent kind offset payload
          ⟨tree, some image, loaded⟩ =
        (.error (.failed (PastEnd.message ⟨offset, payload.size⟩)), ⟨tree, some image, loaded⟩)
  programmed : offset.toNat + payload.size ≤ Layout.flashSize ->
    ∃ next, image.program offset payload = .ok next ∧ next.bytes.size = image.bytes.size ∧
      Places image next offset payload

/-- There is nothing to write, and the place for it lies inside a page that
holds something. -/
structure ErasesIdly (image : Image) (offset : UInt32) (payload : ByteArray) : Prop where
  empty : payload.size = 0
  inner : ¬ Layout.pageSize ∣ offset.toNat
  lost : ∃ address inside, address / Layout.pageSize = offset.toNat / Layout.pageSize ∧
    image.get address inside ≠ erasedByte

section

variable {image next : Image} {op : WriteOp} {address : Nat}

theorem sharesPage_iff_touches (nonempty : op.payload.size ≠ 0) :
    SharesPage op.address op.payload.size address ↔ op.Touches address := by
  simp only [SharesPage, Covers, WriteOp.Touches, pageStop, pageStart, Layout.pageSize]
  constructor
  · rintro ⟨written, covered, same⟩
    omega
  · intro touched
    -- The first octet of the payload that the page has.
    by_cases first : address / 1024 * 1024 ≤ op.address.toNat
    · exact ⟨op.address.toNat, by omega, by omega⟩
    · exact ⟨address / 1024 * 1024, by omega, by omega⟩

theorem not_sharesPage_of_empty (empty : op.payload.size = 0) :
    ¬ SharesPage op.address op.payload.size address := by
  rintro ⟨written, covered, -⟩
  unfold Covers at covered
  omega

theorem touches_iff_of_empty (empty : op.payload.size = 0) :
    op.Touches address ↔ ¬ Layout.pageSize ∣ op.address.toNat ∧
      address / Layout.pageSize = op.address.toNat / Layout.pageSize := by
  simp only [WriteOp.Touches, empty, pageStop, pageStart, Layout.pageSize]
  omega

theorem contents_of_not_covers (outside : ¬ Covers op.address op.payload.size address) :
    op.contents address = erasedByte := by
  rw [WriteOp.contents, dif_neg]
  unfold Covers at outside
  omega

/-- What is to be erased is erased, but for an empty payload the pages are not
those that are to be erased. -/
theorem places_iff (done : image.program op.address op.payload = .ok next) :
    Places image next op.address op.payload ↔ ¬ ErasesIdly image op.address op.payload := by
  by_cases empty : op.payload.size = 0
  · have uncovered (address : Nat) : ¬ Covers op.address op.payload.size address := by
      unfold Covers
      omega
    constructor
    · intro places idle
      rcases idle.lost with ⟨address, inside, same, full⟩
      have kept := places.kept address inside (not_sharesPage_of_empty empty)
      rw [get_program done, if_pos ((touches_iff_of_empty empty).mpr ⟨idle.inner, same⟩),
        contents_of_not_covers (uncovered address)] at kept
      exact full kept.symm
    · intro busy
      refine ⟨?_, ?_, ?_⟩
      · intro index listed inside
        omega
      · intro address inside shared
        exact absurd shared (not_sharesPage_of_empty empty)
      · intro address inside _
        rw [get_program done]
        split
        · next touched =>
          rw [contents_of_not_covers (uncovered address)]
          rcases (touches_iff_of_empty empty).mp touched with ⟨inner, same⟩
          exact Decidable.byContradiction fun full =>
            busy ⟨empty, inner, address, inside, same, Ne.symm full⟩
        · rfl
  · constructor
    · intro _ idle
      exact empty idle.empty
    · intro _
      refine ⟨?_, ?_, ?_⟩
      · intro index listed inside
        rw [get_program done, if_pos (op.touches_of_payload listed), op.contents_of_payload listed]
      · intro address inside shared outside
        rw [get_program done, if_pos ((sharesPage_iff_touches empty).mp shared),
          contents_of_not_covers outside]
      · intro address inside apart
        rw [get_program done, if_neg (mt (sharesPage_iff_touches empty).mpr apart)]

end

theorem ErasesIdly.inside {image : Image} {offset : UInt32} {payload : ByteArray}
    (idle : ErasesIdly image offset payload) :
    offset.toNat + payload.size ≤ Layout.flashSize := by
  rcases idle.lost with ⟨address, inside, same, -⟩
  have empty := idle.empty
  simp only [Layout.pageSize, Layout.flashSize] at inside same ⊢
  omega

theorem takesEffect_iff_not_erasesIdly {image : Image} {op : WriteOp} :
    TakesEffect image op.address op.payload ↔ ¬ ErasesIdly image op.address op.payload := by
  constructor
  · intro effect idle
    rcases effect.programmed idle.inside with ⟨next, done, -, places⟩
    exact (places_iff done).mp places idle
  · intro busy
    refine ⟨?_, ?_⟩
    · intro past
      have refused := image.program_of_not_onChip (Nat.not_le.mpr past)
      refine ⟨refused, ?_⟩
      intro kind tree loaded
      simp only [ImageProgrammer.write, refused]
    · intro fits
      rcases image.program_ok fits with ⟨next, done⟩
      exact ⟨next, done, next.size_eq.trans image.size_eq.symm, (places_iff done).mpr busy⟩

/-- A chip without an erased octet. -/
def zeroed : Image := ⟨Octets.fill 0 Layout.flashSize, Octets.size_fill _ _⟩

theorem get_zeroed {address : Nat} (inside : address < Layout.flashSize) :
    zeroed.get address inside = 0 :=
  Octets.getElem_fill _

/-- Programming has its effect on an image unless it erases a page for an empty
payload.  So it has its effect on every image exactly if there is something to
write, or the payload starts on a page boundary, or it is refused.  Otherwise
it erases the page around the payload and changes nothing else. -/
theorem takesEffect_iff (offset : UInt32) (payload : ByteArray) :
    (∀ image, TakesEffect image offset payload ↔ ¬ ErasesIdly image offset payload) ∧
    ((∀ image, TakesEffect image offset payload) ↔
      payload.size ≠ 0 ∨ Layout.pageSize ∣ offset.toNat ∨ Layout.flashSize < offset.toNat) ∧
    ∀ image, ErasesIdly image offset payload ->
      ∃ next, image.program offset payload = .ok next ∧ ∀ address inside,
        next.get address inside =
          if address / Layout.pageSize = offset.toNat / Layout.pageSize then erasedByte
          else image.get address inside := by
  have effect (image : Image) : TakesEffect image offset payload ↔
      ¬ ErasesIdly image offset payload :=
    @takesEffect_iff_not_erasesIdly image ⟨"", .raw, offset, payload⟩
  refine ⟨effect, ⟨?_, ?_⟩, ?_⟩
  · intro always
    by_cases empty : payload.size = 0
    · by_cases aligned : Layout.pageSize ∣ offset.toNat
      · exact .inr (.inl aligned)
      · refine .inr (.inr (Nat.not_le.mp fun onChip => ?_))
        have inside : offset.toNat < Layout.flashSize := by
          refine Nat.lt_of_le_of_ne onChip fun last => aligned ?_
          rw [last]
          exact ⟨16384, rfl⟩
        refine (effect zeroed).mp (always zeroed) ⟨empty, aligned, offset.toNat, inside, rfl, ?_⟩
        rw [get_zeroed]
        decide
    · exact .inl empty
  · intro harmless image
    refine (effect image).mpr fun idle => ?_
    rcases harmless with nonempty | aligned | past
    · exact nonempty idle.empty
    · exact idle.inner aligned
    · exact absurd (Nat.le_trans (Nat.le_add_right _ _) idle.inside) (Nat.not_le.mpr past)
  · intro image idle
    let op : WriteOp := ⟨"", .raw, offset, payload⟩
    have empty : op.payload.size = 0 := idle.empty
    rcases image.program_ok (show op.OnChip from idle.inside) with ⟨next, done⟩
    refine ⟨next, done, ?_⟩
    intro address inside
    have uncovered : ¬ Covers op.address op.payload.size address := by
      unfold Covers
      omega
    rw [get_program done, contents_of_not_covers uncovered]
    simp only [touches_iff_of_empty empty]
    by_cases same : address / Layout.pageSize = offset.toNat / Layout.pageSize
    · rw [if_pos ⟨idle.inner, same⟩, if_pos same]
    · rw [if_neg fun touched => same touched.2, if_neg same]

/-- An empty payload inside the first page erases the octets that stand
there. -/
theorem emptyWrite_erases_page :
    ∃ first second, erased.program 0 ⟨#[1, 2, 3]⟩ = .ok first ∧
      first.program 5 ⟨#[]⟩ = .ok second ∧
      first.get 0 (by decide) = 1 ∧ second.get 0 (by decide) = erasedByte ∧
      ¬ SharesPage 5 0 0 := by
  let filling : WriteOp := ⟨"", .raw, 0, ⟨#[1, 2, 3]⟩⟩
  let empty : WriteOp := ⟨"", .raw, 5, ⟨#[]⟩⟩
  rcases erased.program_ok (show filling.OnChip by decide) with ⟨first, filled⟩
  rcases first.program_ok (show empty.OnChip by decide) with ⟨second, emptied⟩
  refine ⟨first, second, filled, emptied, ?_, ?_, @not_sharesPage_of_empty empty 0 rfl⟩
  · rw [get_program filled]
    decide
  · rw [get_program emptied, if_pos (show empty.Touches 0 by decide)]
    decide

end Image
end Flash
end FlashSlots
