import FlashSlots.Proofs.Text.Blank
import FlashSlots.Tar.Reader
import FlashSlots.Tar.Writer
import Mathlib.Tactic.IntervalCases

namespace FlashSlots
namespace Tar

/-!
# Headers are read as they were written

Every field of a header gives back what was put into it.  The checksum is taken
with blanks in its own place, so that it does not depend on what is written
there afterwards.
-/

/-! ## Octal digits -/

/-- The digits of octal numbers. -/
def IsOctal (char : Char) : Prop := '0' ≤ char ∧ char ≤ '7'

theorem isOctal_digitChar {digit : Nat} (small : digit < 8) : IsOctal digit.digitChar := by
  interval_cases digit <;> exact ⟨by decide, by decide⟩

theorem isOctal_of_mem_toDigits {n : Nat} {char : Char} (member : char ∈ Nat.toDigits 8 n) :
    IsOctal char := by
  induction n using Nat.strongRecOn with
  | ind n ih =>
    rw [Nat.toDigits_eq_if (by decide)] at member
    split at member
    · next small =>
      rw [List.mem_singleton.mp member]
      exact isOctal_digitChar small
    · next large =>
      rcases List.mem_append.mp member with front | last
      · exact ih (n / 8) (by omega) front
      · rw [List.mem_singleton.mp last]
        exact isOctal_digitChar (Nat.mod_lt n (by decide))

theorem IsOctal.toNat_bounds {char : Char} (octal : IsOctal char) :
    48 ≤ char.toNat ∧ char.toNat ≤ 55 := by
  have lower : '0'.toNat ≤ char.toNat := Char.le_def.mp octal.1
  have upper : char.toNat ≤ '7'.toNat := Char.le_def.mp octal.2
  exact ⟨lower, upper⟩

/-- The characters of a number in a field. -/
def octalText (size value : Nat) : List Char :=
  List.replicate (size - 1 - (Nat.toDigits 8 value).length) '0' ++ Nat.toDigits 8 value

theorem octalField_eq (size value : Nat) :
    octalField size value =
      (octalText size value).map (fun digit => UInt8.ofNat digit.toNat) ++ [0] := rfl

theorem isOctal_of_mem_octalText {size value : Nat} {char : Char}
    (member : char ∈ octalText size value) : IsOctal char := by
  rcases List.mem_append.mp member with filling | digit
  · rw [List.eq_of_mem_replicate filling]
    exact ⟨by decide, by decide⟩
  · exact isOctal_of_mem_toDigits digit

theorem octalText_ne_nil (size value : Nat) : octalText size value ≠ [] :=
  List.append_ne_nil_of_right_ne_nil _ Nat.toDigits_ne_nil

theorem length_octalField {size value : Nat} (fits : value < 8 ^ (size - 1)) (room : 1 < size) :
    (octalField size value).length = size := by
  have digits : (Nat.toDigits 8 value).length ≤ size - 1 :=
    (Nat.length_toDigits_le_iff (by decide) (by omega)).mpr fits
  simp only [octalField_eq, octalText, List.length_append, List.length_map, List.length_replicate,
    List.length_singleton]
  omega

/-- Leading zeros do not count. -/
theorem ofDigitChars_octalText (size value : Nat) :
    Nat.ofDigitChars 8 (octalText size value) 0 = value := by
  have zeros (count : Nat) : Nat.ofDigitChars 8 (List.replicate count '0') 0 = 0 := by
    induction count with
    | zero => rfl
    | succ count ih => exact ih
  have digits := Nat.ofDigitChars_toDigits (b := 8) (n := value) (by decide) (by decide)
  unfold Nat.ofDigitChars at zeros digits ⊢
  rw [octalText, List.foldl_append, zeros, digits]

theorem octalDigits?_eq {digits : List Char} (octal : ∀ char ∈ digits, IsOctal char)
    (nonempty : digits ≠ []) : octalDigits? digits = some (Nat.ofDigitChars 8 digits 0) := by
  have fold (value : Nat) : digits.foldlM (fun value digit =>
      if '0' ≤ digit && digit ≤ '7' then some (value * 8 + (digit.toNat - '0'.toNat)) else none)
        value = some (Nat.ofDigitChars 8 digits value) := by
    clear nonempty
    induction digits generalizing value with
    | nil => rfl
    | cons digit rest ih =>
      have range : ('0' ≤ digit && digit ≤ '7') = true := by
        rw [Bool.and_eq_true, decide_eq_true_eq, decide_eq_true_eq]
        exact octal digit List.mem_cons_self
      rw [List.foldlM_cons, if_pos range, Nat.mul_comm]
      exact ih (fun char inside => octal char (List.mem_cons_of_mem _ inside)) _
  unfold octalDigits?
  split
  · exact absurd rfl nonempty
  · exact fold 0

/-! ## Numbers in a field -/

theorem text_append {octets : List UInt8} (nonzero : 0 ∉ octets) (rest : List UInt8) :
    text (octets ++ rest) = octets ++ text rest := by
  have passed : ∀ octet ∈ octets, (octet != 0) = true := by
    intro octet inside
    rw [bne_iff_ne]
    rintro rfl
    exact nonzero inside
  exact List.takeWhile_append_of_pos passed

/-- What stands before the first zero of a field. -/
theorem text_of_append {octets : List UInt8} (nonzero : 0 ∉ octets) (rest : List UInt8) :
    text (octets ++ 0 :: rest) = octets := by
  have ended : text (0 :: rest) = [] := rfl
  rw [text_append nonzero, ended, List.append_nil]

theorem fromUTF8?_ascii {chars : List Char} (ascii : ∀ char ∈ chars, char.toNat ≤ 127) :
    String.fromUTF8? ⟨(chars.map fun char => UInt8.ofNat char.toNat).toArray⟩ =
      some (String.ofList chars) := by
  have octets : chars.flatMap String.utf8EncodeChar =
      chars.map fun char => UInt8.ofNat char.toNat := by
    induction chars with
    | nil => rfl
    | cons char rest ih =>
      have single : String.utf8EncodeChar char = [UInt8.ofNat char.toNat] :=
        if_pos (ascii char List.mem_cons_self)
      rw [List.flatMap_cons, single, List.singleton_append, List.map_cons,
        ih fun other inside => ascii other (List.mem_cons_of_mem _ inside)]
  have spelled : (String.ofList chars).toByteArray =
      ⟨(chars.map fun char => UInt8.ofNat char.toNat).toArray⟩ := by
    rw [String.toByteArray_ofList, List.utf8Encode, octets]
    exact ByteArray.ext List.data_toByteArray
  have valid := (String.ofList chars).isValidUTF8
  rw [← spelled, String.fromUTF8?, dif_pos valid]
  rfl

theorem IsOctal.not_isBlank {char : Char} (octal : IsOctal char) :
    Text.isBlank char = false := by
  have bounds := octal.toNat_bounds
  simp only [Text.isBlank, Bool.or_eq_false_iff, Bool.and_eq_false_iff, decide_eq_false_iff_not,
    beq_eq_false_iff_ne]
  omega

theorem trim_octal {digits : List Char} (octal : ∀ char ∈ digits, IsOctal char) :
    Text.trim digits = digits :=
  Text.trim_of_solid fun char inside => (octal char inside).not_isBlank

/-- A number is read from its digits. -/
theorem octal?_octalField {size value : Nat} (small : value < numberLimit) :
    octal? (octalField size value) = some value := by
  have octal : ∀ char ∈ octalText size value, IsOctal char :=
    fun char inside => isOctal_of_mem_octalText inside
  have nonzero : 0 ∉ (octalText size value).map fun digit => UInt8.ofNat digit.toNat := by
    intro zero
    rcases List.mem_map.mp zero with ⟨digit, inside, same⟩
    have bounds := (octal digit inside).toNat_bounds
    have number := congrArg UInt8.toNat same
    rw [UInt8.toNat_ofNat', UInt8.toNat_zero] at number
    omega
  have ascii : ∀ char ∈ octalText size value, char.toNat ≤ 127 :=
    fun char inside => Nat.le_trans (octal char inside).toNat_bounds.2 (by decide)
  have unsigned : (octalText size value).head? ≠ some '+' := by
    intro plus
    have bounds := (octal '+' (List.mem_of_head? plus)).toNat_bounds
    exact absurd bounds.1 (by decide)
  rw [octal?, octalField_eq, text_of_append nonzero, fromUTF8?_ascii ascii]
  simp only [Option.bind_eq_bind, Option.bind_some, String.toList_ofList, trim_octal octal,
    if_neg unsigned, octalDigits?_eq octal (octalText_ne_nil size value), ofDigitChars_octalText,
    if_pos small]

/-! ## Lengths -/

theorem length_lengthField {length : Nat} : (lengthField length).length = 12 := by
  unfold lengthField
  split
  · next small => exact length_octalField small (by decide)
  · rfl

theorem binary_octets64 {value : Nat} (small : value < numberLimit) :
    binary ([0x80, 0, 0, 0] ++ octets64 value) = value := by
  unfold numberLimit at small
  have octets : binary ([0x80, 0, 0, 0] ++ octets64 value) =
      (octets64 value).foldl (fun value byte => value * 256 + byte.toNat) 0 := rfl
  have powers : (octets64 value).map UInt8.toNat =
      [value / 72057594037927936 % 256, value / 281474976710656 % 256,
        value / 1099511627776 % 256, value / 4294967296 % 256, value / 16777216 % 256,
        value / 65536 % 256, value / 256 % 256, value / 1 % 256] := by
    simp only [octets64, List.map_cons, List.map_nil, UInt8.toNat_ofNat']
  rw [octets, ← List.foldl_map, powers]
  simp only [List.foldl_cons, List.foldl_nil]
  omega

/-- A length is read in either form. -/
theorem number?_lengthField {length : Nat} (small : length < numberLimit) :
    number? (lengthField length) = some length := by
  unfold lengthField
  split
  · next digits =>
    have octal : octal? (octalField 12 length) = some length := octal?_octalField small
    rw [octalField_eq] at octal ⊢
    cases spelled : octalText 12 length with
    | nil => exact absurd spelled (octalText_ne_nil 12 length)
    | cons first rest =>
      have member : first ∈ octalText 12 length := spelled ▸ List.mem_cons_self
      have bounds := (isOctal_of_mem_octalText member).toNat_bounds
      have plain : ¬ 0x80 ≤ UInt8.ofNat first.toNat := by
        rw [UInt8.le_iff_toNat_le, UInt8.toNat_ofNat', show (0x80 : UInt8).toNat = 128 from rfl]
        omega
      rw [spelled] at octal
      exact (if_neg plain).trans octal
  · exact congrArg some (binary_octets64 small)

/-! ## Parts of a block -/

section

variable {parts : List (List UInt8)} {part : List UInt8} {i : Nat}

/-- A part stands between the parts before it and those behind it. -/
theorem flatten_split (found : parts[i]? = some part) :
    parts.flatten = (parts.take i).flatten ++ (part ++ (parts.drop (i + 1)).flatten) := by
  rcases List.getElem?_eq_some_iff.mp found with ⟨inside, rfl⟩
  rw [← List.flatten_cons, ← List.flatten_append, ← List.drop_eq_getElem_cons inside,
    List.take_append_drop]

theorem length_flatten_take (parts : List (List UInt8)) (i : Nat) :
    (parts.take i).flatten.length = ((parts.map List.length).take i).sum := by
  rw [List.length_flatten, List.map_take]

/-- A field gives the part that stands in its place. -/
theorem Field.get_of_part {field : Field} (found : parts[i]? = some part)
    (start : (parts.take i).flatten.length = field.start) (size : part.length = field.size) :
    field.get ⟨parts.flatten.toArray⟩ = part := by
  rw [flatten_split found, Field.get, ByteArray.data_extract, List.extract_toArray,
    List.extract_eq_take_drop, List.toList_toArray, ← start, List.drop_left,
    Nat.add_sub_cancel_left, ← size, List.take_left]

theorem octet_of_part {octet : UInt8} (found : parts[i]? = some [octet]) :
    Octets.octet ⟨parts.flatten.toArray⟩ (parts.take i).flatten.length = octet := by
  rw [flatten_split found]
  generalize (parts.take i).flatten = front
  generalize (parts.drop (i + 1)).flatten = back
  have inside : front.length < (front ++ ([octet] ++ back)).length := by
    simp
  refine (dif_pos inside).trans ?_
  show (front ++ ([octet] ++ back)).toArray[front.length] = octet
  simp

end

/-! ## Checksums -/

/-- The sum of some octets. -/
def octetSum (octets : List UInt8) : Nat := octets.foldl (fun sum byte => sum + byte.toNat) 0

theorem octetSum_le (octets : List UInt8) : octetSum octets ≤ 255 * octets.length := by
  have fold (start : Nat) : octets.foldl (fun sum byte => sum + byte.toNat) start ≤
      start + 255 * octets.length := by
    induction octets generalizing start with
    | nil => exact Nat.le_refl _
    | cons octet rest ih =>
      have small := octet.toNat_lt
      have more := ih (start + octet.toNat)
      rw [List.foldl_cons, List.length_cons]
      omega
  rw [octetSum]
  exact Nat.zero_add (255 * octets.length) ▸ fold 0

/-- What stands in place of the checksum does not count. -/
theorem blockSum_of_append {front field back : List UInt8}
    (start : front.length = Field.checksum.start) (size : field.length = Field.checksum.size)
    (whole : (front ++ (field ++ back)).length = blockSize) :
    blockSum ⟨(front ++ (field ++ back)).toArray⟩ =
      octetSum front + Field.checksum.size * 0x20 + octetSum back := by
  have known : (ByteArray.mk (front ++ (field ++ back)).toArray).size = blockSize := whole
  have before : Field.checksum.start ≤ (ByteArray.mk (front ++ (field ++ back)).toArray).size := by
    rw [known]
    decide
  have head : ((front ++ (field ++ back)).take Field.checksum.start).drop 0 = front := by
    rw [List.drop_zero, ← start, List.take_left]
  have tail : ((front ++ (field ++ back)).take blockSize).drop
      (Field.checksum.start + Field.checksum.size) = back := by
    rw [← whole, List.take_length, ← start, ← size, ← List.length_append, ← List.append_assoc,
      List.drop_left]
  unfold blockSum
  dsimp only
  rw [Octets.foldl_eq _ _ before, Octets.foldl_eq _ _ (Nat.le_of_eq known.symm),
    List.toList_toArray, head, tail]
  rfl

/-! ## Headers -/

theorem length_filled {size : Nat} {octets : List UInt8} (fits : octets.length ≤ size) :
    (filled size octets).length = size := by
  rw [filled, List.length_append, List.length_replicate]
  omega

/-- What a header holds fits into its fields. -/
structure Fits (name owner : List UInt8) (length : Nat) : Prop where
  name : name.length ≤ nameSize
  owner : owner.length ≤ 8
  length : length < numberLimit

section

variable (name owner : List UInt8) (length : Nat) (code : UInt8)

/-- The fields of a header, one after another. -/
def headerParts (checksum : List UInt8) : List (List UInt8) :=
  [filled 100 name, octalField 8 0o644, filled 8 owner, filled 8 owner, lengthField length,
    octalField 12 0, checksum, [code], filled 100 [], "ustar  \x00".toUTF8.data.toList,
    filled 247 []]

/-- The sizes of these fields. -/
def headerSizes : List Nat := [100, 8, 8, 8, 12, 12, 8, 1, 100, 8, 247]

/-- The checksum of a header. -/
def headerSum : Nat :=
  octetSum ((headerParts name owner length code []).take 6).flatten +
    Field.checksum.size * 0x20 + octetSum ((headerParts name owner length code []).drop 7).flatten

theorem headerOctets_eq (checksum : List UInt8) :
    headerOctets name owner length code checksum =
      (headerParts name owner length code checksum).flatten := by
  simp only [headerOctets, headerParts, List.flatten_cons, List.flatten_nil, List.append_assoc,
    List.append_nil]

end

section

variable {name owner : List UInt8} {length : Nat} (fits : Fits name owner length) (code : UInt8)

include fits

theorem sizes_headerParts {checksum : List UInt8} (size : checksum.length = 8) :
    (headerParts name owner length code checksum).map List.length = headerSizes := by
  have names : (filled 100 name).length = 100 := length_filled fits.name
  have mode : (octalField 8 0o644).length = 8 := length_octalField (by decide) (by decide)
  have time : (octalField 12 0).length = 12 := length_octalField (by decide) (by decide)
  have links : (filled 100 []).length = 100 := length_filled (by decide)
  have magic : "ustar  \x00".toUTF8.data.toList.length = 8 := rfl
  have rest : (filled 247 []).length = 247 := length_filled (by decide)
  simp only [headerParts, List.map_cons, List.map_nil, names, mode, length_filled fits.owner,
    length_lengthField, time, size, List.length_singleton, links, magic, rest]
  rfl

theorem length_take_headerParts {checksum : List UInt8} (size : checksum.length = 8) (i : Nat) :
    ((headerParts name owner length code checksum).take i).flatten.length =
      (headerSizes.take i).sum := by
  rw [length_flatten_take, sizes_headerParts fits code size]

theorem blockSum_headerOctets {checksum : List UInt8} (size : checksum.length = 8) :
    blockSum ⟨(headerOctets name owner length code checksum).toArray⟩ =
      headerSum name owner length code := by
  have split : (headerParts name owner length code checksum).flatten =
      ((headerParts name owner length code checksum).take 6).flatten ++
        (checksum ++ ((headerParts name owner length code checksum).drop 7).flatten) :=
    flatten_split rfl
  have start := length_take_headerParts fits code size 6
  have whole := length_take_headerParts fits code size 11
  rw [headerOctets_eq, split]
  refine blockSum_of_append start size ?_
  rw [← split]
  exact whole

theorem headerSum_lt : headerSum name owner length code < 8 ^ 7 := by
  let blank := headerParts name owner length code (List.replicate 8 0x20)
  have whole : blank.flatten.length = blockSize := length_take_headerParts fits code rfl 11
  have split : blank.flatten = (blank.take 6).flatten ++
      (List.replicate 8 0x20 ++ (blank.drop 7).flatten) := flatten_split rfl
  have front := octetSum_le (blank.take 6).flatten
  have back := octetSum_le (blank.drop 7).flatten
  have sum : headerSum name owner length code = octetSum (blank.take 6).flatten +
      Field.checksum.size * 0x20 + octetSum (blank.drop 7).flatten := rfl
  have blanks : Field.checksum.size = 8 := rfl
  rw [split, List.length_append, List.length_append, List.length_replicate] at whole
  unfold blockSize at whole
  rw [sum, blanks]
  omega

theorem length_checksumField :
    (octalField 8 (headerSum name owner length code)).length = 8 :=
  length_octalField (headerSum_lt fits code) (by decide)

theorem header_eq :
    header name owner length code =
      ⟨(headerParts name owner length code
        (octalField 8 (headerSum name owner length code))).flatten.toArray⟩ := by
  have blanks : blockSum ⟨(headerOctets name owner length code
      (List.replicate 8 0x20)).toArray⟩ = headerSum name owner length code :=
    blockSum_headerOctets fits code rfl
  rw [header]
  dsimp only
  rw [blanks, headerOctets_eq]

/-- A field of a header gives what was put there. -/
theorem get_header {field : Field} {part : List UInt8} (i : Nat)
    (found : (headerParts name owner length code
      (octalField 8 (headerSum name owner length code)))[i]? = some part)
    (start : (headerSizes.take i).sum = field.start) (size : part.length = field.size) :
    field.get (header name owner length code) = part := by
  rw [header_eq fits]
  refine Field.get_of_part found ?_ size
  rw [length_take_headerParts fits code (length_checksumField fits code), start]

theorem size_header : (header name owner length code).size = blockSize := by
  rw [header_eq fits]
  exact length_take_headerParts fits code (length_checksumField fits code) 11

theorem blockSum_header :
    blockSum (header name owner length code) = headerSum name owner length code := by
  rw [header_eq fits, ← headerOctets_eq,
    blockSum_headerOctets fits code (length_checksumField fits code)]

/-- The checksum of a header is that of its octets. -/
theorem checksum_header :
    octal? (Field.checksum.get (header name owner length code)) =
      some (blockSum (header name owner length code)) := by
  have small : headerSum name owner length code < numberLimit :=
    Nat.lt_trans (headerSum_lt fits code) (by decide)
  rw [blockSum_header fits, get_header fits code 6 rfl rfl (length_checksumField fits code),
    octal?_octalField small]

theorem kind_header : kind (header name owner length code) = Char.ofNat code.toNat := by
  have start := length_take_headerParts fits code (length_checksumField fits code) 7
  have octet : Octets.octet (header name owner length code) Field.kind.start = code := by
    rw [header_eq fits, show Field.kind.start = _ from start.symm]
    exact octet_of_part rfl
  rw [kind, octet]

theorem name_header : Field.name.get (header name owner length code) = filled 100 name :=
  get_header fits code 0 rfl rfl (length_filled fits.name)

theorem length_header :
    number? (Field.length.get (header name owner length code)) = some length := by
  rw [get_header fits code 4 rfl rfl length_lengthField, number?_lengthField fits.length]

theorem format_header : format (header name owner length code) = .extended := by
  have magic : Field.magic.get (header name owner length code) =
      "ustar  \x00".toUTF8.data.toList := get_header fits code 9 rfl rfl rfl
  rw [format, magic]
  decide

theorem header_not_zero : (header name owner length code).data.all (· == 0) = false := by
  have letter : 0x75 ∈ (header name owner length code).data := by
    rw [header_eq fits, List.mem_toArray]
    refine List.mem_flatten.mpr ⟨"ustar  \x00".toUTF8.data.toList, ?_, by decide⟩
    simp [headerParts]
  refine eq_false_of_ne_true fun zeros => ?_
  exact absurd (Array.all_eq_true_iff_forall_mem.mp zeros _ letter) (by decide)

end

end Tar
end FlashSlots
