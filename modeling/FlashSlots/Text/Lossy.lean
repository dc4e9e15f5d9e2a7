namespace FlashSlots
namespace Text

/-!
# Text from any octets

Octets that are not UTF-8 still have a text: every longest beginning of a
character that does not go on, and every octet that cannot start one, is
replaced by the replacement character.
-/

/-- Stands for octets that are not text. -/
def replacement : Char := '\uFFFD'

/-- How many octets follow this one in a character, and the range of the first
of them. -/
def following? (first : UInt8) : Option (Nat × UInt8 × UInt8) :=
  if 0xC2 ≤ first && first ≤ 0xDF then some (1, 0x80, 0xBF)
  else if first = 0xE0 then some (2, 0xA0, 0xBF)
  else if first = 0xED then some (2, 0x80, 0x9F)
  else if 0xE1 ≤ first && first ≤ 0xEF then some (2, 0x80, 0xBF)
  else if first = 0xF0 then some (3, 0x90, 0xBF)
  else if 0xF1 ≤ first && first ≤ 0xF3 then some (3, 0x80, 0xBF)
  else if first = 0xF4 then some (3, 0x80, 0x8F)
  else none

/-- The bits that the first octet of a character contributes. -/
def leadBits (first : UInt8) (count : Nat) : Nat := first.toNat % Nat.pow 2 (6 - count)

/-- The text of octets, inside a character: its bits so far, how many octets it
still needs, and the range of the next one.  No octet is needed outside. -/
def lossyFrom (value needed : Nat) (low high : UInt8) : List UInt8 -> List Char
  | [] => if needed = 0 then [] else [replacement]
  | byte :: rest =>
    match needed with
    | more + 1 =>
      if low ≤ byte && byte ≤ high then
        let value := value * 64 + byte.toNat % 64
        if more = 0 then Char.ofNat value :: lossyFrom 0 0 0 0 rest
        else lossyFrom value more 0x80 0xBF rest
      else replacement :: start byte rest
    | 0 => start byte rest
where
  /-- The text of octets, where a character may start. -/
  start (byte : UInt8) (rest : List UInt8) : List Char :=
    if byte < 0x80 then Char.ofNat byte.toNat :: lossyFrom 0 0 0 0 rest
    else
      match following? byte with
      | none => replacement :: lossyFrom 0 0 0 0 rest
      | some (count, low, high) => lossyFrom (leadBits byte count) count low high rest

/-- The text of octets. -/
def lossy (bytes : List UInt8) : String := String.ofList (lossyFrom 0 0 0 0 bytes)

end Text
end FlashSlots
