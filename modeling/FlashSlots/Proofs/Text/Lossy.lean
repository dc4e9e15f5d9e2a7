import FlashSlots.Text.Lossy
import Mathlib.Tactic.IntervalCases

namespace FlashSlots
namespace Text

/-!
# Text that is UTF-8 loses nothing

The octets of a character are read one by one, from its first octet to its last
one.  The range of the second octet depends on the first one; it leaves out what
does not stand for a character: longer forms than necessary, surrogates, and
numbers beyond the last character.
-/

section

variable {n value needed : Nat} {low high : UInt8} (rest : List UInt8)

/-! ## The first octet -/

theorem lossyFrom_one (small : n < 0x80) :
    lossyFrom 0 0 0 0 (UInt8.ofNat n :: rest) = Char.ofNat n :: lossyFrom 0 0 0 0 rest := by
  have known : (UInt8.ofNat n).toNat = n := by
    rw [UInt8.toNat_ofNat']
    omega
  have below : UInt8.ofNat n < 0x80 := by
    rw [UInt8.lt_iff_toNat_lt, known]
    exact small
  rw [lossyFrom, lossyFrom.start, if_pos below, known]

/-- What the first of several octets says: how many follow, the range of the
next one, and the highest bits. -/
def Leads (byte : UInt8) (count : Nat) (low high : UInt8) (bits : Nat) : Prop :=
  ¬ byte < 0x80 ∧ following? byte = some (count, low, high) ∧ leadBits byte count = bits

instance (byte : UInt8) (count : Nat) (low high : UInt8) (bits : Nat) :
    Decidable (Leads byte count low high bits) :=
  inferInstanceAs (Decidable (_ ∧ _ ∧ _))

theorem lossyFrom_lead {byte : UInt8} {count bits : Nat} (leads : Leads byte count low high bits) :
    lossyFrom 0 0 0 0 (byte :: rest) = lossyFrom bits count low high rest := by
  rcases leads with ⟨long, follows, rfl⟩
  rw [lossyFrom, lossyFrom.start, if_neg long, follows]

theorem leads_two (lower : 2 ≤ n) (upper : n < 32) :
    Leads (UInt8.ofNat (n % 32 + 0xC0)) 1 0x80 0xBF n := by
  interval_cases n <;> decide

theorem leads_three (upper : n < 16) :
    Leads (UInt8.ofNat (n % 16 + 0xE0)) 2 (if n = 0x0 then 0xA0 else 0x80)
      (if n = 0xD then 0x9F else 0xBF) n := by
  interval_cases n <;> decide

theorem leads_four (upper : n < 5) :
    Leads (UInt8.ofNat (n % 8 + 0xF0)) 3 (if n = 0 then 0x90 else 0x80)
      (if n = 4 then 0x8F else 0xBF) n := by
  interval_cases n <;> decide

/-! ## The octets behind it -/

theorem toNat_tail (n : Nat) : (UInt8.ofNat (n % 64 + 0x80)).toNat = n % 64 + 0x80 := by
  rw [UInt8.toNat_ofNat']
  omega

theorem within_range (inside : low.toNat ≤ n % 64 + 0x80 ∧ n % 64 + 0x80 ≤ high.toNat) :
    (decide (low ≤ UInt8.ofNat (n % 64 + 0x80)) &&
      decide (UInt8.ofNat (n % 64 + 0x80) ≤ high)) = true := by
  rw [Bool.and_eq_true, decide_eq_true_eq, decide_eq_true_eq, UInt8.le_iff_toNat_le,
    UInt8.le_iff_toNat_le, toNat_tail]
  exact inside

theorem lossyFrom_inner (inside : low.toNat ≤ n % 64 + 0x80 ∧ n % 64 + 0x80 ≤ high.toNat) :
    lossyFrom value (needed + 2) low high (UInt8.ofNat (n % 64 + 0x80) :: rest) =
      lossyFrom (value * 64 + n % 64) (needed + 1) 0x80 0xBF rest := by
  have bits : (n % 64 + 0x80) % 64 = n % 64 := by omega
  rw [lossyFrom, if_pos (within_range inside), toNat_tail, bits]
  rfl

theorem lossyFrom_last (inside : low.toNat ≤ n % 64 + 0x80 ∧ n % 64 + 0x80 ≤ high.toNat) :
    lossyFrom value 1 low high (UInt8.ofNat (n % 64 + 0x80) :: rest) =
      Char.ofNat (value * 64 + n % 64) :: lossyFrom 0 0 0 0 rest := by
  have bits : (n % 64 + 0x80) % 64 = n % 64 := by omega
  rw [lossyFrom, if_pos (within_range inside), toNat_tail, bits]
  rfl

end

/-! ## Characters -/

/-- The number of a character is not that of a surrogate. -/
theorem char_bounds (char : Char) :
    (char.toNat < 0xD800 ∨ 0xDFFF < char.toNat) ∧ char.toNat < 0x110000 := by
  have valid : char.toNat < 0xD800 ∨ (0xDFFF < char.toNat ∧ char.toNat < 0x110000) := char.valid
  omega

/-- Any last six bits are within the usual range. -/
theorem usual_range (n : Nat) :
    (0x80 : UInt8).toNat ≤ n % 64 + 0x80 ∧ n % 64 + 0x80 ≤ (0xBF : UInt8).toNat := by
  have low : (0x80 : UInt8).toNat = 0x80 := rfl
  have high : (0xBF : UInt8).toNat = 0xBF := rfl
  omega

/-- The second of three octets: no shorter form would do, and the number is not
that of a surrogate. -/
theorem range_of_three {n : Nat} (long : 0x800 ≤ n) (valid : n < 0xD800 ∨ 0xDFFF < n) :
    (if n / 4096 = 0x0 then 0xA0 else 0x80 : UInt8).toNat ≤ n / 64 % 64 + 0x80 ∧
      n / 64 % 64 + 0x80 ≤ (if n / 4096 = 0xD then 0x9F else 0xBF : UInt8).toNat := by
  have usual := usual_range (n / 64)
  constructor
  · split
    · show 0xA0 ≤ n / 64 % 64 + 0x80
      omega
    · exact usual.1
  · split
    · show n / 64 % 64 + 0x80 ≤ 0x9F
      omega
    · exact usual.2

/-- The second of four octets: no shorter form would do, and the number is that
of a character. -/
theorem range_of_four {n : Nat} (long : 0x10000 ≤ n) (valid : n < 0x110000) :
    (if n / 262144 = 0 then 0x90 else 0x80 : UInt8).toNat ≤ n / 4096 % 64 + 0x80 ∧
      n / 4096 % 64 + 0x80 ≤ (if n / 262144 = 4 then 0x8F else 0xBF : UInt8).toNat := by
  have usual := usual_range (n / 4096)
  constructor
  · split
    · show 0x90 ≤ n / 4096 % 64 + 0x80
      omega
    · exact usual.1
  · split
    · show n / 4096 % 64 + 0x80 ≤ 0x8F
      omega
    · exact usual.2

/-- The octets of a character are read as that character. -/
theorem lossyFrom_encodeChar (char : Char) (rest : List UInt8) :
    lossyFrom 0 0 0 0 (String.utf8EncodeChar char ++ rest) =
      char :: lossyFrom 0 0 0 0 rest := by
  have bounds := char_bounds char
  have number : char.val.toNat = char.toNat := rfl
  unfold String.utf8EncodeChar
  rw [number]
  generalize known : char.toNat = n at bounds
  have back : Char.ofNat n = char := by rw [← known, Char.ofNat_toNat]
  dsimp only
  split
  · next one => rw [List.singleton_append, lossyFrom_one rest (by omega), back]
  · split
    · next two =>
      have value : n / 64 * 64 + n % 64 = n := by omega
      rw [List.cons_append, List.singleton_append, lossyFrom_lead _ (leads_two (by omega) (by omega)),
        lossyFrom_last _ (usual_range n), value, back]
    · split
      · next three =>
        have first : n / 4096 < 16 := by omega
        have second := range_of_three (by omega) bounds.1
        have value : (n / 4096 * 64 + n / 64 % 64) * 64 + n % 64 = n := by omega
        rw [List.cons_append, List.cons_append, List.singleton_append,
          lossyFrom_lead _ (leads_three first), lossyFrom_inner _ second,
          lossyFrom_last _ (usual_range n), value, back]
      · next four =>
        have first : n / 262144 < 5 := by omega
        have second := range_of_four (by omega) bounds.2
        have value : ((n / 262144 * 64 + n / 4096 % 64) * 64 + n / 64 % 64) * 64 + n % 64 = n := by
          omega
        rw [List.cons_append, List.cons_append, List.cons_append, List.singleton_append,
          lossyFrom_lead _ (leads_four first), lossyFrom_inner _ second,
          lossyFrom_inner _ (usual_range (n / 64)), lossyFrom_last _ (usual_range n), value, back]

theorem lossyFrom_encode (chars : List Char) :
    lossyFrom 0 0 0 0 (chars.flatMap String.utf8EncodeChar) = chars := by
  induction chars with
  | nil => rw [List.flatMap_nil, lossyFrom, if_pos rfl]
  | cons char rest ih => rw [List.flatMap_cons, lossyFrom_encodeChar, ih]

/-- A text is encoded character by character. -/
theorem toList_toUTF8 (text : String) :
    text.toUTF8.data.toList = text.toList.flatMap String.utf8EncodeChar := by
  have spelled : text.toByteArray = text.toList.utf8Encode := by
    rw [← String.toByteArray_ofList, String.ofList_toList]
  rw [String.toUTF8_eq_toByteArray, spelled]
  exact List.toList_data_toByteArray

/-- The octets of a text are read as that text. -/
theorem lossy_toUTF8 (text : String) : lossy text.toUTF8.data.toList = text := by
  rw [lossy, toList_toUTF8, lossyFrom_encode, String.ofList_toList]

end Text
end FlashSlots
