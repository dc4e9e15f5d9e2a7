import FlashSlots.Flash.Image
import FlashSlots.Package.WriteOp
import FlashSlots.Proofs.Outcome

namespace FlashSlots

/-!
# What programming leaves in flash

A write decides the contents of every page that it touches: the payload where
it goes, and erased octets in the rest of those pages.  All other pages stay as
they were.  After a series of writes an octet that no write touches is the old
one, and an octet about which all the writes that touch it agree is what they
say, whatever their order is and however often each of them is made.
-/

namespace WriteOp

/-- The write erases the page of this address. -/
def Touches (op : WriteOp) (address : Nat) : Prop :=
  Flash.Image.pageStart op.address.toNat ≤ address ∧
    address < Flash.Image.pageStop (op.address.toNat + op.payload.size)

instance (op : WriteOp) (address : Nat) : Decidable (op.Touches address) :=
  inferInstanceAs (Decidable (_ ∧ _))

/-- What the write leaves at an address that it touches. -/
def contents (op : WriteOp) (address : Nat) : UInt8 :=
  if inside : op.address.toNat ≤ address ∧ address - op.address.toNat < op.payload.size then
    op.payload[address - op.address.toNat]
  else Flash.erasedByte

/-- The payload ends on the chip. -/
def OnChip (op : WriteOp) : Prop := op.address.toNat + op.payload.size ≤ Layout.flashSize

instance (op : WriteOp) : Decidable op.OnChip := inferInstanceAs (Decidable (_ ≤ _))

theorem touches_of_payload (op : WriteOp) {index : Nat} (inside : index < op.payload.size) :
    op.Touches (op.address.toNat + index) := by
  have first := Flash.Image.pageStart_le op.address.toNat
  have last := Flash.Image.le_pageStop (op.address.toNat + op.payload.size)
  exact ⟨by omega, by omega⟩

theorem contents_of_payload (op : WriteOp) {index : Nat} (inside : index < op.payload.size) :
    op.contents (op.address.toNat + index) = op.payload[index] := by
  rw [contents, dif_pos ⟨Nat.le_add_right _ _, by omega⟩]
  simp only [Nat.add_sub_cancel_left]

theorem contents_of_behind (op : WriteOp) {address : Nat}
    (behind : op.address.toNat + op.payload.size ≤ address) :
    op.contents address = Flash.erasedByte := by
  rw [contents, dif_neg (by omega)]

end WriteOp

namespace Flash
namespace Image

/-! ## One write -/

theorem program_ok (image : Image) {op : WriteOp} (onChip : op.OnChip) :
    ∃ programmed, image.program op.address op.payload = .ok programmed := by
  rw [program, dif_pos (show op.address.toNat + op.payload.size ≤ _ from onChip)]
  exact ⟨_, rfl⟩

theorem program_of_not_onChip (image : Image) {op : WriteOp} (past : ¬ op.OnChip) :
    image.program op.address op.payload = .error ⟨op.address, op.payload.size⟩ :=
  dif_neg past

theorem onChip_of_program {image programmed : Image} {op : WriteOp}
    (done : image.program op.address op.payload = .ok programmed) : op.OnChip := by
  unfold program at done
  split at done
  · next inside => exact inside
  · cases done

theorem getElem_eraseRange {bytes : ByteArray} {first last i : Nat} (ordered : first ≤ last)
    (fits : last ≤ bytes.size) (inside : i < (eraseRange bytes first last).size)
    (old : i < bytes.size) :
    (eraseRange bytes first last)[i] = if first ≤ i ∧ i < last then erasedByte else bytes[i] := by
  have room : first + (Octets.fill erasedByte (last - first)).size ≤ bytes.size := by
    rw [Octets.size_fill]
    omega
  have written := Octets.getElem_overwrite room inside old
  refine written.trans ?_
  by_cases within : first ≤ i ∧ i < last
  · rw [if_pos within, dif_pos ⟨within.1, by rw [Octets.size_fill]; omega⟩]
    exact Octets.getElem_fill _
  · rw [if_neg within, dif_neg]
    rw [Octets.size_fill]
    omega

/-- A write decides the pages that it touches and nothing else. -/
theorem get_program {image programmed : Image} {op : WriteOp}
    (done : image.program op.address op.payload = .ok programmed) {address : Nat}
    (inside : address < Layout.flashSize) :
    programmed.get address inside =
      if op.Touches address then op.contents address else image.get address inside := by
  have onChip := onChip_of_program done
  have first := pageStart_le op.address.toNat
  have last := le_pageStop (op.address.toNat + op.payload.size)
  have whole := image.size_eq ▸ pageStop_le_flashSize onChip
  have ordered := Nat.le_trans first (Nat.le_trans (Nat.le_add_right _ op.payload.size) last)
  have erased := size_eraseRange image.bytes ordered whole
  have room := erased.symm ▸ Nat.le_trans last whole
  have old : address < image.bytes.size := image.size_eq ▸ inside
  rw [program, dif_pos (show op.address.toNat + op.payload.size ≤ _ from onChip)] at done
  cases done
  refine (Octets.getElem_overwrite room
    (by rw [Octets.size_overwrite room, erased]; exact old) (erased ▸ old)).trans ?_
  rw [getElem_eraseRange ordered whole (erased ▸ old) old]
  by_cases payload : op.address.toNat ≤ address ∧ address - op.address.toNat < op.payload.size
  · rw [dif_pos payload, if_pos ⟨by omega, by omega⟩, WriteOp.contents, dif_pos payload]
  · rw [dif_neg payload, WriteOp.contents, dif_neg payload]
    rfl

/-! ## A series of writes -/

/-- Program writes one after the other, as long as they stay on the chip. -/
def programAll (image : Image) (ops : List WriteOp) : Except PastEnd Image :=
  ops.foldlM (fun image op => image.program op.address op.payload) image

theorem programAll_cons_eq_ok_iff {image programmed : Image} {op : WriteOp} {ops : List WriteOp} :
    image.programAll (op :: ops) = .ok programmed ↔
      ∃ next, image.program op.address op.payload = .ok next ∧
        next.programAll ops = .ok programmed :=
  bind_eq_ok_iff

/-- Writes that end on the chip can all be made. -/
theorem programAll_ok {ops : List WriteOp} (onChip : ∀ op ∈ ops, op.OnChip) (image : Image) :
    ∃ programmed, image.programAll ops = .ok programmed := by
  induction ops generalizing image with
  | nil => exact ⟨image, rfl⟩
  | cons op ops ih =>
    rcases image.program_ok (onChip op List.mem_cons_self) with ⟨next, first⟩
    rcases ih (fun other member => onChip other (List.mem_cons_of_mem op member)) next with
      ⟨programmed, others⟩
    exact ⟨programmed, programAll_cons_eq_ok_iff.mpr ⟨next, first, others⟩⟩

theorem get_programAll_of_untouched {image programmed : Image} {ops : List WriteOp}
    (done : image.programAll ops = .ok programmed) {address : Nat}
    (inside : address < Layout.flashSize) (untouched : ∀ op ∈ ops, ¬ op.Touches address) :
    programmed.get address inside = image.get address inside := by
  induction ops generalizing image with
  | nil =>
    cases done
    rfl
  | cons op ops ih =>
    rcases programAll_cons_eq_ok_iff.mp done with ⟨next, first, others⟩
    have behind := ih others fun other member => untouched other (List.mem_cons_of_mem op member)
    rw [behind, get_program first, if_neg (untouched op List.mem_cons_self)]

/-- An octet on which the writes agree is what they say.  The last write that
touches it decides, and any other one would have left the same. -/
theorem get_programAll_of_touched {image programmed : Image} {ops : List WriteOp}
    (done : image.programAll ops = .ok programmed) {address : Nat}
    (inside : address < Layout.flashSize) {op : WriteOp} (listed : op ∈ ops)
    (touched : op.Touches address)
    (agree : ∀ other ∈ ops, other.Touches address -> other.contents address = op.contents address) :
    programmed.get address inside = op.contents address := by
  induction ops generalizing image op with
  | nil => cases listed
  | cons first ops ih =>
    rcases programAll_cons_eq_ok_iff.mp done with ⟨next, start, others⟩
    by_cases again : ∃ later ∈ ops, later.Touches address
    · rcases again with ⟨later, member, touchedAgain⟩
      have same := agree later (List.mem_cons_of_mem first member) touchedAgain
      rw [← same]
      apply ih others member touchedAgain
      intro other otherMember otherTouches
      rw [same]
      exact agree other (List.mem_cons_of_mem first otherMember) otherTouches
    · have untouched : ∀ other ∈ ops, ¬ other.Touches address :=
        fun other member touches => again ⟨other, member, touches⟩
      have here : op = first := by
        rcases List.mem_cons.mp listed with same | member
        · exact same
        · exact absurd touched (untouched op member)
      subst here
      rw [get_programAll_of_untouched others inside untouched, get_program start, if_pos touched]

/-! ## Reading -/

/-- The octet at any address.  Behind the end everything is erased. -/
def octetAt (image : Image) (address : Nat) : UInt8 :=
  if inside : address < Layout.flashSize then image.get address inside else erasedByte

theorem getElem_read (image : Image) (address : Nat) {length index : Nat}
    (inside : index < (image.read address length).size) :
    (image.read address length)[index] = image.octetAt (address + index) := by
  have size := image.size_eq
  have short : index < length := image.size_read address length ▸ inside
  by_cases onChip : address + index < Layout.flashSize
  · have front : index < (image.bytes.extract address (address + length)).size := by
      rw [ByteArray.size_extract]
      omega
    rw [octetAt, dif_pos onChip]
    simp only [read]
    rw [ByteArray.getElem_append_left front, ByteArray.getElem_extract]
    rfl
  · have behind : (image.bytes.extract address (address + length)).size ≤ index := by
      rw [ByteArray.size_extract]
      omega
    rw [octetAt, dif_neg onChip]
    simp only [read]
    rw [ByteArray.getElem_append_right behind]
    exact Octets.getElem_fill _

/-- Reading gives these octets if each of them stands in its place. -/
theorem read_eq {image : Image} {address : Nat} {bytes : ByteArray}
    (stands : ∀ index (inside : index < bytes.size),
      image.octetAt (address + index) = bytes[index]) :
    image.read address bytes.size = bytes := by
  apply ByteArray.ext_getElem
  · exact image.size_read address bytes.size
  · intro index first second
    rw [getElem_read]
    exact stands index second

theorem read_congr {first second : Image} {address length : Nat}
    (same : ∀ index < length, first.octetAt (address + index) = second.octetAt (address + index)) :
    first.read address length = second.read address length := by
  apply ByteArray.ext_getElem
  · rw [size_read, size_read]
  · intro index left right
    rw [getElem_read, getElem_read]
    exact same index (first.size_read address length ▸ left)

end Image
end Flash
end FlashSlots
