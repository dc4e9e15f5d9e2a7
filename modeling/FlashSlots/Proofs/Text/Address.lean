import FlashSlots.Layout
import FlashSlots.Text.Hex
import FlashSlots.Toml.Number
import Mathlib.Data.Nat.Digits.Defs
import Mathlib.Tactic.IntervalCases

namespace FlashSlots
namespace Text

/-!
# Addresses as text

An address of the chip takes six digits, whatever its value.  The number can be
read from them again, so that different addresses have different texts of the
same length.
-/

/-- The digits of an address behind its sign. -/
def addressDigits (n : Nat) : List Char :=
  List.replicate (6 - (hexDigits n).length) '0' ++ hexDigits n

theorem toList_address (n : Nat) : (address n).toList = '0' :: 'x' :: addressDigits n := by
  rw [address, String.toList_append]
  exact congrArg (['0', 'x'] ++ ·) String.toList_ofList

/-! ## What stands in an address -/

theorem mem_hexDigits {n : Nat} {char : Char} (member : char ∈ hexDigits n) :
    ∃ digit < 16, char = digit.digitChar := by
  rw [hexDigits] at member
  induction n using Nat.strongRecOn with
  | ind n ih =>
    rw [Nat.toDigits_eq_if (by decide)] at member
    split at member
    · next small => exact ⟨n, small, List.mem_singleton.mp member⟩
    · next large =>
      rcases List.mem_append.mp member with front | last
      · exact ih (n / 16) (by omega) front
      · exact ⟨n % 16, Nat.mod_lt n (by decide), List.mem_singleton.mp last⟩

theorem mem_addressDigits {n : Nat} {char : Char} (member : char ∈ addressDigits n) :
    ∃ digit < 16, char = digit.digitChar := by
  rcases List.mem_append.mp member with filling | digit
  · exact ⟨0, by decide, List.eq_of_mem_replicate filling⟩
  · exact mem_hexDigits digit

/-- An address is written with the sign and digits only. -/
theorem notMem_address {n : Nat} {char : Char} (sign : char ≠ 'x')
    (other : ∀ digit < 16, char ≠ digit.digitChar) : char ∉ (address n).toList := by
  rw [toList_address, List.mem_cons, List.mem_cons, not_or, not_or]
  refine ⟨other 0 (by decide), sign, fun member => ?_⟩
  rcases mem_addressDigits member with ⟨digit, small, same⟩
  exact other digit small same

/-! ## The number of an address -/

theorem digitValue_digitChar {digit : Nat} (small : digit < 16) :
    Toml.digitValue digit.digitChar = digit := by
  interval_cases digit <;> rfl

theorem valueOf_append (front back : List Char) :
    Toml.valueOf 16 (front ++ back) =
      back.foldl (fun value char => value * 16 + Toml.digitValue char) (Toml.valueOf 16 front) :=
  List.foldl_append

theorem valueOf_hexDigits (n : Nat) : Toml.valueOf 16 (hexDigits n) = n := by
  rw [hexDigits]
  induction n using Nat.strongRecOn with
  | ind n ih =>
    rw [Nat.toDigits_eq_if (by decide)]
    split
    · next small =>
      show 0 * 16 + Toml.digitValue n.digitChar = n
      rw [digitValue_digitChar small, Nat.zero_mul, Nat.zero_add]
    · next large =>
      rw [valueOf_append, ih (n / 16) (by omega), List.foldl_cons, List.foldl_nil,
        digitValue_digitChar (Nat.mod_lt n (by decide))]
      omega

theorem valueOf_zeros (count : Nat) : Toml.valueOf 16 (List.replicate count '0') = 0 := by
  induction count with
  | zero => rfl
  | succ count ih => exact ih

/-- The reader of numbers gets the address back. -/
theorem valueOf_addressDigits (n : Nat) : Toml.valueOf 16 (addressDigits n) = n := by
  rw [addressDigits, valueOf_append, valueOf_zeros]
  exact valueOf_hexDigits n

theorem address_inj {first second : Nat} (same : address first = address second) :
    first = second := by
  rw [← String.toList_inj, toList_address, toList_address] at same
  have digits := (List.cons.inj (List.cons.inj same).2).2
  rw [← valueOf_addressDigits first, digits, valueOf_addressDigits]

/-! ## The length of an address -/

theorem length_addressDigits {n : Nat} (onChip : n < Layout.flashSize) : (addressDigits n).length = 6 := by
  have width : Layout.flashSize = 16 ^ 6 := by decide
  have short : (hexDigits n).length ≤ 6 := Nat.toDigits_length 16 n 6 (by decide) (width ▸ onChip)
  rw [addressDigits, List.length_append, List.length_replicate]
  omega

theorem utf8ByteSize_ofList_of_single {chars : List Char}
    (single : ∀ char ∈ chars, char.utf8Size = 1) :
    (String.ofList chars).utf8ByteSize = chars.length := by
  induction chars with
  | nil => rfl
  | cons char rest ih =>
    rw [List.forall_mem_cons] at single
    rw [String.ofList_cons, String.utf8ByteSize_append, String.utf8ByteSize_singleton,
      single.1, ih single.2, List.length_cons, Nat.add_comm]

/-- The text of an address on the chip takes eight octets. -/
theorem utf8ByteSize_address {n : Nat} (onChip : n < Layout.flashSize) :
    (address n).utf8ByteSize = 8 := by
  have single : ∀ char ∈ (address n).toList, char.utf8Size = 1 := by
    rw [toList_address, List.forall_mem_cons, List.forall_mem_cons]
    refine ⟨rfl, rfl, fun char member => ?_⟩
    rcases mem_addressDigits member with ⟨digit, small, rfl⟩
    interval_cases digit <;> rfl
  have size := utf8ByteSize_ofList_of_single single
  rw [String.ofList_toList, toList_address, List.length_cons, List.length_cons,
    length_addressDigits onChip] at size
  exact size

end Text
end FlashSlots
