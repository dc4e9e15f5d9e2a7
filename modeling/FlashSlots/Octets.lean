namespace FlashSlots
namespace Octets

/-!
# Strings of octets

Octets are read one by one.  Two more operations are for strings that are too
long to be treated octet by octet: a string of equal octets, which is built by
doubling, and writing one string over a part of another.  Both are described by
their size and by the octet that stands at each position.
-/

/-- Strings of octets are equal if their octets are. -/
instance octetsDecidableEq : DecidableEq ByteArray := ByteArray.instDecidableEq

/-- The octet at a position, and zero behind the end. -/
def octet (bytes : ByteArray) (position : Nat) : UInt8 :=
  if inside : position < bytes.size then bytes.get position inside else 0

theorem octet_append_left {front : ByteArray} {position : Nat} (inside : position < front.size)
    (back : ByteArray) : octet (front ++ back) position = octet front position := by
  have longer : position < (front ++ back).size := by
    rw [ByteArray.size_append]
    omega
  rw [octet, octet, dif_pos longer, dif_pos inside]
  exact ByteArray.getElem_append_left inside

theorem octet_append_right (front back : ByteArray) (position : Nat) :
    octet (front ++ back) (front.size + position) = octet back position := by
  unfold octet
  by_cases inside : position < back.size
  · have longer : front.size + position < (front ++ back).size := by
      rw [ByteArray.size_append]
      omega
    rw [dif_pos longer, dif_pos inside]
    refine (ByteArray.getElem_append_right (Nat.le_add_right _ _)).trans ?_
    exact getElem_congr_idx (Nat.add_sub_cancel_left front.size position)
  · rw [dif_neg inside, dif_neg]
    rw [ByteArray.size_append]
    omega

/-- A part that stands between others. -/
theorem extract_middle (front part back : ByteArray) :
    (front ++ (part ++ back)).extract front.size (front.size + part.size) = part :=
  ByteArray.extract_append_size_add.trans (ByteArray.extract_append_eq_left rfl)

theorem foldlLoop_eq {β : Type} (f : β -> UInt8 -> β) {bytes : ByteArray} {stop : Nat}
    (fits : stop ≤ bytes.size) {count position : Nat} (enough : stop - position ≤ count)
    (value : β) :
    ByteArray.foldlM.loop (m := Id) f bytes stop fits count position value =
      ((bytes.data.toList.take stop).drop position).foldl f value := by
  have length : (bytes.data.toList.take stop).length = stop := by
    rw [List.length_take]
    exact Nat.min_eq_left fits
  induction count generalizing position value with
  | zero =>
    have behind : ¬ position < stop := by omega
    rw [ByteArray.foldlM.loop, dif_neg behind, List.drop_of_length_le (by omega)]
    rfl
  | succ count ih =>
    rw [ByteArray.foldlM.loop]
    split
    · next inside =>
      rw [List.drop_eq_getElem_cons (by omega), List.foldl_cons, List.getElem_take]
      exact ih (by omega) _
    · next behind =>
      rw [List.drop_of_length_le (by omega)]
      rfl

/-- A part of a string is folded octet by octet. -/
theorem foldl_eq {β : Type} (f : β -> UInt8 -> β) (start : β) {bytes : ByteArray}
    {first stop : Nat} (fits : stop ≤ bytes.size) :
    bytes.foldl f start first stop =
      ((bytes.data.toList.take stop).drop first).foldl f start := by
  unfold ByteArray.foldl ByteArray.foldlM
  rw [dif_pos fits]
  exact foldlLoop_eq f fits (Nat.le_refl _) start

/-- A string of equal octets. -/
def fill (byte : UInt8) (n : Nat) : ByteArray :=
  if n = 0 then ByteArray.empty
  else
    let half := fill byte (n / 2)
    if n % 2 = 0 then half ++ half else (half ++ half).push byte
  termination_by n

theorem fill_eq (byte : UInt8) (n : Nat) :
    (fill byte n).data = Array.replicate n byte := by
  induction n using Nat.strongRecOn with
  | ind n ih =>
    rw [fill]
    split
    · next zero =>
      subst zero
      rfl
    · next positive =>
      have half := ih (n / 2) (by omega)
      split
      · next even =>
        simp only [ByteArray.data_append, half, Array.replicate_append_replicate]
        congr 1
        omega
      · next odd =>
        simp only [ByteArray.data_push, ByteArray.data_append, half,
          Array.replicate_append_replicate, ← Array.replicate_succ]
        congr 1
        omega

theorem size_fill (byte : UInt8) (n : Nat) : (fill byte n).size = n := by
  rw [ByteArray.size, fill_eq, Array.size_replicate]

theorem getElem_fill {byte : UInt8} {n i : Nat} (inside : i < (fill byte n).size) :
    (fill byte n)[i] = byte := by
  simp only [ByteArray.getElem_eq_getElem_data, fill_eq, Array.getElem_replicate]

/-- A string with another one written over it from a position on.  It keeps
its size if the other one fits. -/
def overwrite (bytes : ByteArray) (start : Nat) (payload : ByteArray) : ByteArray :=
  bytes.extract 0 start ++ payload ++ bytes.extract (start + payload.size) bytes.size

theorem size_overwrite {bytes payload : ByteArray} {start : Nat}
    (fits : start + payload.size ≤ bytes.size) :
    (overwrite bytes start payload).size = bytes.size := by
  simp only [overwrite, ByteArray.size_append, ByteArray.size_extract]
  omega

theorem getElem_overwrite {bytes payload : ByteArray} {start i : Nat}
    (fits : start + payload.size ≤ bytes.size) (inside : i < (overwrite bytes start payload).size)
    (old : i < bytes.size) :
    (overwrite bytes start payload)[i] =
      if h : start ≤ i ∧ i - start < payload.size then payload[i - start] else bytes[i] := by
  have front : (bytes.extract 0 start).size = start := by
    rw [ByteArray.size_extract]
    omega
  have middle : (bytes.extract 0 start ++ payload).size = start + payload.size := by
    rw [ByteArray.size_append, front]
  by_cases before : i < start
  · rw [dif_neg (by omega)]
    simp only [overwrite]
    rw [ByteArray.getElem_append_left (by omega), ByteArray.getElem_append_left (by omega)]
    simp only [ByteArray.getElem_extract, Nat.zero_add]
  · by_cases within : i < start + payload.size
    · rw [dif_pos (by omega)]
      simp only [overwrite]
      rw [ByteArray.getElem_append_left (by omega), ByteArray.getElem_append_right (by omega)]
      simp only [front]
    · rw [dif_neg (by omega)]
      simp only [overwrite]
      rw [ByteArray.getElem_append_right (by omega)]
      simp only [ByteArray.getElem_extract, middle]
      congr 1
      omega

end Octets
end FlashSlots
