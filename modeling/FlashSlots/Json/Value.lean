import FlashSlots.Json.Text
import FlashSlots.Text.Decimal

namespace FlashSlots
namespace Json

/-!
# JSON values

A value keeps what a reader of manifests can ask for.  Of the numbers these
are the natural ones, written without sign, fraction and exponent; any other
number is only known to be one.  Members of an object keep their order and
may repeat a key.

`Value.render` writes a value without blanks.
-/

/-- A JSON value. -/
inductive Value where
  | null
  | bool (truth : Bool)
  /-- Digits alone, without a leading zero. -/
  | natural (n : Nat)
  /-- A number with a sign, a fraction or an exponent. -/
  | otherNumber
  | text (pieces : List Piece)
  | list (items : List Value)
  | object (members : List (List Piece × Value))

/-- The octets of an ASCII text. -/
def ascii (text : String) : List UInt8 := text.toList.map fun char => UInt8.ofNat char.toNat

/-- An octet between quotes.  Control characters have no place there; the
usual ones have short escapes and the others are written as code units. -/
def escape (byte : UInt8) : List UInt8 :=
  if byte = 0x22 then [0x5C, 0x22]
  else if byte = 0x5C then [0x5C, 0x5C]
  else if byte = 0x08 then [0x5C, 0x62]
  else if byte = 0x09 then [0x5C, 0x74]
  else if byte = 0x0A then [0x5C, 0x6E]
  else if byte = 0x0C then [0x5C, 0x66]
  else if byte = 0x0D then [0x5C, 0x72]
  else if byte < 0x20 then
    [0x5C, 0x75, 0x30, 0x30] ++
      [UInt8.ofNat (Nat.digitChar (byte.toNat / 16)).toNat,
        UInt8.ofNat (Nat.digitChar (byte.toNat % 16)).toNat]
  else [byte]

/-- A code unit between quotes. -/
def escapeUnit (code : Nat) : List UInt8 :=
  [0x5C, 0x75] ++ [code / 0x1000, code / 0x100 % 16, code / 0x10 % 16, code % 16].map fun digit =>
    UInt8.ofNat (Nat.digitChar digit).toNat

/-- A string with its quotes. -/
def quote (pieces : List Piece) : List UInt8 :=
  [0x22] ++ pieces.flatMap (fun
    | .octet byte => escape byte
    | .unit code => escapeUnit code) ++ [0x22]

mutual

/-- The value, without blanks. -/
def Value.render : Value -> List UInt8
  | .null => ascii "null"
  | .bool true => ascii "true"
  | .bool false => ascii "false"
  | .natural n => Text.decimal n
  | .otherNumber => ascii "-0"
  | .text pieces => quote pieces
  | .list items => [0x5B] ++ renderItems items ++ [0x5D]
  | .object members => [0x7B] ++ renderMembers members ++ [0x7D]

/-- The items of a list, with commas between them. -/
def renderItems : List Value -> List UInt8
  | [] => []
  | [item] => item.render
  | item :: rest => item.render ++ [0x2C] ++ renderItems rest

/-- The members of an object, with commas between them. -/
def renderMembers : List (List Piece × Value) -> List UInt8
  | [] => []
  | [(key, item)] => quote key ++ [0x3A] ++ item.render
  | (key, item) :: rest => quote key ++ [0x3A] ++ item.render ++ [0x2C] ++ renderMembers rest

end

end Json
end FlashSlots
