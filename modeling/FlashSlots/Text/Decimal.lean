namespace FlashSlots
namespace Text

/-!
# Decimal numerals

A natural number is written with the digits `0` to `9` and no leading zero.
`decimal` writes it and `decimalValue` reads a run of digits; the two laws say
that reading undoes writing, and that what is written is a numeral in this
sense.
-/

/-- An octet that is a decimal digit. -/
def isDigit (byte : UInt8) : Bool := decide (0x30 ≤ byte) && decide (byte ≤ 0x39)

def digitValue (byte : UInt8) : Nat := byte.toNat - 0x30

/-- The digit with this value. -/
def digitOf (n : Nat) : UInt8 := UInt8.ofNat (0x30 + n)

/-- The value of a run of digits that continues a number. -/
def decimalValueFrom (start : Nat) (digits : List UInt8) : Nat :=
  digits.foldl (fun value byte => value * 10 + digitValue byte) start

/-- The value of a run of digits. -/
def decimalValue (digits : List UInt8) : Nat := decimalValueFrom 0 digits

/-- The digits of a number, most significant first, in front of `rest`. -/
def decimalOnto (n : Nat) (rest : List UInt8) : List UInt8 :=
  if n < 10 then digitOf n :: rest
  else decimalOnto (n / 10) (digitOf (n % 10) :: rest)
  termination_by n

/-- The numeral of a number. -/
def decimal (n : Nat) : List UInt8 := decimalOnto n []

theorem isDigit_digitOf {n : Nat} (small : n < 10) : isDigit (digitOf n) = true := by
  have cases : n = 0 ∨ n = 1 ∨ n = 2 ∨ n = 3 ∨ n = 4 ∨ n = 5 ∨ n = 6 ∨ n = 7 ∨ n = 8 ∨ n = 9 := by
    omega
  rcases cases with h | h | h | h | h | h | h | h | h | h <;> subst h <;> decide

theorem digitValue_digitOf {n : Nat} (small : n < 10) : digitValue (digitOf n) = n := by
  unfold digitValue digitOf
  rw [UInt8.toNat_ofNat_of_lt' (show 0x30 + n < UInt8.size by simp only [UInt8.size]; omega)]
  omega

theorem decimalOnto_eq (n : Nat) (rest : List UInt8) :
    decimalOnto n rest = decimal n ++ rest := by
  unfold decimal
  induction n using Nat.strongRecOn generalizing rest with
  | ind n ih =>
    rw [decimalOnto.eq_1 n rest, decimalOnto.eq_1 n []]
    split
    · rfl
    · rw [ih (n / 10) (by omega), ih (n / 10) (by omega) [digitOf (n % 10)], List.append_assoc]
      rfl

theorem decimal_of_lt {n : Nat} (small : n < 10) : decimal n = [digitOf n] := by
  rw [decimal, decimalOnto, if_pos small]

theorem decimal_of_ge {n : Nat} (large : 10 ≤ n) :
    decimal n = decimal (n / 10) ++ [digitOf (n % 10)] := by
  rw [decimal, decimalOnto, if_neg (by omega), decimalOnto_eq]

theorem decimalValueFrom_append (start : Nat) (first second : List UInt8) :
    decimalValueFrom start (first ++ second) =
      decimalValueFrom (decimalValueFrom start first) second :=
  List.foldl_append

theorem decimalValue_decimal (n : Nat) : decimalValue (decimal n) = n := by
  induction n using Nat.strongRecOn with
  | ind n ih =>
    by_cases small : n < 10
    · rw [decimal_of_lt small]
      simp [decimalValue, decimalValueFrom, digitValue_digitOf small]
    · rw [decimal_of_ge (by omega), decimalValue, decimalValueFrom_append]
      have shorter := ih (n / 10) (by omega)
      rw [decimalValue] at shorter
      rw [shorter]
      simp [decimalValueFrom, digitValue_digitOf (Nat.mod_lt n (by decide : 0 < 10))]
      omega

theorem isDigit_of_mem_decimal {n : Nat} {byte : UInt8} (member : byte ∈ decimal n) :
    isDigit byte = true := by
  induction n using Nat.strongRecOn with
  | ind n ih =>
    by_cases small : n < 10
    · rw [decimal_of_lt small, List.mem_singleton] at member
      exact member ▸ isDigit_digitOf small
    · rw [decimal_of_ge (by omega), List.mem_append, List.mem_singleton] at member
      rcases member with front | last
      · exact ih (n / 10) (by omega) front
      · exact last ▸ isDigit_digitOf (Nat.mod_lt n (by decide))

end Text
end FlashSlots
