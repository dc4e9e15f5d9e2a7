import FlashSlots.Compression.Stored

namespace FlashSlots
namespace Compression

/-!
# A stored text is inflated again

A stored block starts at an octet and ends at one.  So inflating a stored text
goes from block to block: after each of them it has the beginning of the text
that the blocks so far hold, and stands where the next block begins.  What is in
front of the first block and behind the last one does not matter.
-/

/-! ## Fields -/

theorem size_octets16 (n : Nat) : (octets16 n).size = 2 := rfl

theorem number16_octets16 (front back : ByteArray) {n : Nat} (small : n < 65536) :
    number16 (front ++ (octets16 n ++ back)) front.size = n := by
  have low : Octets.octet (front ++ (octets16 n ++ back)) front.size = UInt8.ofNat (n % 256) :=
    (Octets.octet_append_right front _ 0).trans
      (Octets.octet_append_left (show 0 < (octets16 n).size from Nat.two_pos) back)
  have high : Octets.octet (front ++ (octets16 n ++ back)) (front.size + 1) =
      UInt8.ofNat (n / 256) :=
    (Octets.octet_append_right front _ 1).trans
      (Octets.octet_append_left (show 1 < (octets16 n).size from Nat.one_lt_two) back)
  rw [number16, low, high, UInt8.toNat_ofNat', UInt8.toNat_ofNat']
  omega

/-- Three bits at the start of an octet. -/
theorem bits_of_octet {input : ByteArray} {position : Nat} (inside : position < input.size) :
    bits input (8 * position) 3 = .ok ((Octets.octet input position).toNat % 8) := by
  have value : Octets.octet input position = input[position] := dif_pos inside
  have each (k : Nat) (small : k < 8) :
      bit input (8 * position + k) = .ok ((Octets.octet input position).toNat / Nat.pow 2 k % 2) := by
    have place : (8 * position + k) / 8 = position := by omega
    have offset : (8 * position + k) % 8 = k := by omega
    unfold bit
    rw [dif_pos (by rw [place]; exact inside), offset, Nat.shiftRight_eq_div_pow, value]
    simp only [place]
    rfl
  have first : bit input (8 * position) = _ := each 0 (by decide)
  have second : bit input (8 * position + 1) = _ := each 1 (by decide)
  have third : bit input (8 * position + 1 + 1) = _ := each 2 (by decide)
  simp only [bits, first, second, third]
  simp only [Nat.pow_eq, Nat.pow_zero, Nat.pow_one, Except.ok.injEq]
  omega

/-! ## Blocks -/

theorem size_storedBlock (last : Bool) (content : ByteArray) :
    (storedBlock last content).size = content.size + 5 := by
  unfold storedBlock
  simp only [ByteArray.size_append, size_octets16]
  change 1 + 2 + 2 + content.size = _
  omega

theorem exceeds_of_le {rules : InflateRules} {short long : ByteArray}
    (shorter : short.size ≤ long.size) (within : exceeds rules long = false) :
    exceeds rules short = false := by
  unfold exceeds at *
  split at within
  · rfl
  · exact decide_eq_false fun longer =>
      absurd (Nat.lt_of_lt_of_le longer shorter) (of_decide_eq_false within)

section

variable (rules : InflateRules) (front back : ByteArray)

/-- The first octet of a block says what follows. -/
theorem bits_storedBlock (last : Bool) (content : ByteArray) :
    bits (front ++ (storedBlock last content ++ back)) (8 * front.size) 3 =
      .ok (if last then 1 else 0) := by
  have shorter : front.size < (front ++ (storedBlock last content ++ back)).size := by
    rw [ByteArray.size_append, ByteArray.size_append, size_storedBlock]
    omega
  have first : Octets.octet (front ++ (storedBlock last content ++ back)) front.size =
      if last then 1 else 0 := by
    refine (Octets.octet_append_right front _ 0).trans ?_
    rw [Octets.octet_append_left (by rw [size_storedBlock]; exact Nat.succ_pos _), storedBlock,
      ByteArray.append_assoc, ByteArray.append_assoc]
    rw [Octets.octet_append_left (by exact Nat.one_pos)]
    rfl
  rw [bits_of_octet shorter, first]
  cases last <;> rfl

/-- The length of a block, its complement and its content. -/
theorem fields_storedBlock (last : Bool) {content : ByteArray}
    (short : content.size ≤ maxStored) :
    number16 (front ++ (storedBlock last content ++ back)) (front.size + 1) = content.size ∧
      number16 (front ++ (storedBlock last content ++ back)) (front.size + 1 + 2) =
        maxStored - content.size ∧
      (front ++ (storedBlock last content ++ back)).extract (front.size + 1 + 4)
        (front.size + 1 + 4 + content.size) = content := by
  let kind : ByteArray := ⟨#[if last then 1 else 0]⟩
  let length := octets16 content.size
  let complement := octets16 (maxStored - content.size)
  have limited : content.size ≤ 65535 := short
  -- The same octets, parted in front of each field.
  have atLength : front ++ (storedBlock last content ++ back) =
      front ++ kind ++ (length ++ (complement ++ (content ++ back))) := by
    change front ++ (kind ++ length ++ complement ++ content ++ back) = _
    simp only [ByteArray.append_assoc]
  have atComplement : front ++ (storedBlock last content ++ back) =
      front ++ kind ++ length ++ (complement ++ (content ++ back)) := by
    rw [atLength]
    simp only [ByteArray.append_assoc]
  have atContent : front ++ (storedBlock last content ++ back) =
      front ++ kind ++ length ++ complement ++ (content ++ back) := by
    rw [atLength]
    simp only [ByteArray.append_assoc]
  have before : (front ++ kind).size = front.size + 1 := ByteArray.size_append
  have between : (front ++ kind ++ length).size = front.size + 1 + 2 := by
    rw [ByteArray.size_append, before, size_octets16]
  have behind : (front ++ kind ++ length ++ complement).size = front.size + 1 + 4 := by
    rw [ByteArray.size_append, between, size_octets16]
  refine ⟨?_, ?_, ?_⟩
  · rw [atLength, ← before]
    exact number16_octets16 _ _ (by omega)
  · rw [atComplement, ← between]
    exact number16_octets16 _ _ (Nat.lt_of_le_of_lt (Nat.sub_le _ _) (by decide))
  · rw [atContent, ← behind]
    exact Octets.extract_middle _ _ _

/-- A block is copied, unless the text becomes too long. -/
theorem inflateStored_storedBlock (last : Bool) {content : ByteArray} (text : ByteArray)
    (short : content.size ≤ maxStored) :
    inflateStored rules (front ++ (storedBlock last content ++ back)) (8 * front.size + 3) text =
      if exceeds rules (text ++ content) then
        ⟨text ++ content, 8 * front.size + 3, .error .corrupt⟩
      else ⟨text ++ content, 8 * (front ++ storedBlock last content).size, .ok ()⟩ := by
  rcases fields_storedBlock front back last short with ⟨length, complement, copied⟩
  have start : octetBoundary (8 * front.size + 3) / 8 = front.size + 1 := by
    rw [octetBoundary]
    omega
  have size : (front ++ (storedBlock last content ++ back)).size =
      front.size + (content.size + 5 + back.size) := by
    rw [ByteArray.size_append, ByteArray.size_append, size_storedBlock]
  have stop : (front ++ storedBlock last content).size = front.size + 1 + 4 + content.size := by
    rw [ByteArray.size_append, size_storedBlock]
    omega
  have sum : content.size + (maxStored - content.size) = 0xFFFF := Nat.add_sub_cancel' short
  unfold inflateStored
  dsimp only
  rw [start, length, complement, copied, sum, stop, size, if_neg (by omega),
    if_neg (not_not_intro rfl)]
  split
  · rfl
  · rw [if_neg (by omega)]

/-- One block of the loop. -/
theorem inflateBlocks_storedBlock (last : Bool) {content : ByteArray} (text : ByteArray)
    (fuel : Nat) (short : content.size ≤ maxStored) :
    inflateBlocks rules (front ++ (storedBlock last content ++ back)) (fuel + 1)
        (8 * front.size) text =
      if exceeds rules (text ++ content) then
        ⟨text ++ content, 8 * front.size + 3, .error .corrupt⟩
      else if last then ⟨text ++ content, 8 * (front ++ storedBlock last content).size, .ok ()⟩
      else
        inflateBlocks rules (front ++ (storedBlock last content ++ back)) fuel
          (8 * (front ++ storedBlock last content).size) (text ++ content) := by
  have kind : (if last then 1 else 0) / 2 = 0 := by cases last <;> rfl
  have block := inflateStored_storedBlock rules front back last text short
  rw [inflateBlocks, bits_storedBlock]
  dsimp only
  rw [inflateBlock, if_pos kind, block]
  by_cases long : exceeds rules (text ++ content) = true
  · rw [if_pos long, if_pos long]
  · rw [if_neg long, if_neg long]
    cases last <;> rfl

end

/-! ## Texts -/

/-- What inflating a stored text comes to. -/
def Restores (rules : InflateRules) (text : ByteArray) (position : Nat) (inflated : Inflated) :
    Prop :=
  if exceeds rules text then inflated.ending = .error .corrupt
  else inflated = ⟨text, position, .ok ()⟩

theorem size_storeFrom_pos (text : ByteArray) (start : Nat) : 0 < (storeFrom text start).size := by
  rw [storeFrom]
  split
  · rw [size_storedBlock]
    omega
  · rw [ByteArray.size_append, size_storedBlock]
    omega

/-- From a block on, the rest of the text is added to what the blocks before it
have given.  No block is empty, so that the size of the blocks bounds their
number. -/
theorem inflateBlocks_storeFrom (rules : InflateRules) (front back : ByteArray) {text : ByteArray}
    {start fuel : Nat} (inside : start ≤ text.size) (enough : (storeFrom text start).size ≤ fuel) :
    Restores rules text (8 * (front ++ storeFrom text start).size)
      (inflateBlocks rules (front ++ (storeFrom text start ++ back)) fuel (8 * front.size)
        (text.extract 0 start)) := by
  induction fuel generalizing front start with
  | zero => exact absurd enough (Nat.not_le.mpr (size_storeFrom_pos text start))
  | succ fuel ih =>
    rw [storeFrom] at enough ⊢
    split at enough
    · next final =>
      have whole : text.extract 0 start ++ text.extract start text.size = text := by
        rw [← ByteArray.extract_eq_extract_append_extract start (Nat.zero_le _) inside,
          ByteArray.extract_zero_size]
      have short : (text.extract start text.size).size ≤ maxStored := by
        rw [ByteArray.size_extract]
        omega
      rw [if_pos final, inflateBlocks_storedBlock rules front back true _ fuel short, whole]
      unfold Restores
      split <;> rfl
    · next more =>
      have known : text.extract 0 start ++ text.extract start (start + maxStored) =
          text.extract 0 (start + maxStored) :=
        (ByteArray.extract_eq_extract_append_extract start (Nat.zero_le _) (Nat.le_add_right _ _)).symm
      have short : (text.extract start (start + maxStored)).size ≤ maxStored := by
        rw [ByteArray.size_extract]
        omega
      rw [ByteArray.size_append, size_storedBlock] at enough
      rw [if_neg more, ByteArray.append_assoc,
        inflateBlocks_storedBlock rules front _ false _ fuel short, known]
      split
      · next long =>
        have longer : exceeds rules text = true := by
          cases whole : exceeds rules text with
          | true => rfl
          | false =>
            have part : (text.extract 0 (start + maxStored)).size ≤ text.size := by
              rw [ByteArray.size_extract]
              omega
            rw [exceeds_of_le part whole] at long
            cases long
        rw [Restores, if_pos longer]
      · have rest := ih (front ++ storedBlock false (text.extract start (start + maxStored)))
          (show start + maxStored ≤ text.size by omega) (by omega)
        rw [ByteArray.append_assoc, ByteArray.append_assoc] at rest
        exact rest

/-- A stored text is inflated, wherever it stands, if it is not longer than
wanted. -/
theorem inflate_store (rules : InflateRules) (front text back : ByteArray) :
    Restores rules text (8 * (front ++ store text).size)
      (inflate rules (front ++ (store text ++ back)) front.size) := by
  have enough : (storeFrom text 0).size ≤ 8 * (front ++ (store text ++ back)).size + 1 := by
    rw [ByteArray.size_append, ByteArray.size_append, store]
    omega
  have whole := inflateBlocks_storeFrom rules front back (Nat.zero_le text.size) enough
  rw [ByteArray.extract_same] at whole
  exact whole

end Compression
end FlashSlots
