namespace FlashSlots
namespace Text

/-!
# Hexadecimal text

Addresses are shown with the sign `0x` and lower-case digits.  A table of
addresses pads them with zeros to six digits, so that every address of the
chip has the same width; a longer number keeps all of its digits.
-/

/-- The digits of a number in base sixteen, without leading zeros. -/
def hexDigits (n : Nat) : List Char := Nat.toDigits 16 n

/-- A number with its sign, as short as possible. -/
def hex (n : Nat) : String := "0x" ++ String.ofList (hexDigits n)

/-- A number with its sign and at least six digits. -/
def address (n : Nat) : String :=
  let digits := hexDigits n
  "0x" ++ String.ofList (List.replicate (6 - digits.length) '0' ++ digits)

/-- The two digits of an octet. -/
def hexByte (byte : UInt8) : List Char :=
  [Nat.digitChar (byte.toNat / 16), Nat.digitChar (byte.toNat % 16)]

/-- Octets as pairs of digits. -/
def hexBytes (bytes : List UInt8) : String := String.ofList (bytes.flatMap hexByte)

end Text
end FlashSlots
