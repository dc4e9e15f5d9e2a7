import FlashSlots.Text.Blank

namespace FlashSlots
namespace Tar

/-!
# Fields of a header

An archive is made of blocks of equal size.  A header block is divided into
fields.  A text in a field ends at the first zero octet or fills the field.  A
number is written in octal digits, with blanks around them, or, marked by the
highest bit, as a binary number.
-/

def blockSize : Nat := 512

/-- Where a field stands in a block. -/
structure Field where
  start : Nat
  size : Nat

namespace Field

def name : Field := ⟨0, 100⟩
def length : Field := ⟨124, 12⟩
def checksum : Field := ⟨148, 8⟩
def kind : Field := ⟨156, 1⟩
def magic : Field := ⟨257, 8⟩
def leading : Field := ⟨345, 155⟩
def sparseMap : Field := ⟨386, 96⟩
def sparseMore : Field := ⟨482, 1⟩
def sparseSize : Field := ⟨483, 12⟩

/-- The octets of a field. -/
def get (field : Field) (block : ByteArray) : List UInt8 :=
  (block.extract field.start (field.start + field.size)).data.toList

end Field

/-- What stands before the first zero. -/
def text (field : List UInt8) : List UInt8 := field.takeWhile (· != 0)

/-- The greatest number of a field is one less. -/
def numberLimit : Nat := 18446744073709551616

/-- The value of octal digits. -/
def octalDigits? (digits : List Char) : Option Nat :=
  match digits with
  | [] => none
  | _ => digits.foldlM (fun value digit =>
      if '0' ≤ digit && digit ≤ '7' then some (value * 8 + (digit.toNat - '0'.toNat)) else none) 0

/-- The number in a field of digits. -/
def octal? (field : List UInt8) : Option Nat := do
  let written ← String.fromUTF8? ⟨(text field).toArray⟩
  let digits := Text.trim written.toList
  let value ← octalDigits? (if digits.head? = some '+' then digits.drop 1 else digits)
  if value < numberLimit then some value else none

/-- The number in a field marked as binary.  Only the last eight octets
count. -/
def binary (field : List UInt8) : Nat :=
  (field.drop (field.length - 8)).foldl (fun value byte => value * 256 + byte.toNat) 0

/-- The number in a field of either form. -/
def number? (field : List UInt8) : Option Nat :=
  match field with
  | [] => none
  | first :: _ => if 0x80 ≤ first then some (binary field) else octal? field

/-- The sum of all octets, with blanks in place of the checksum. -/
def blockSum (block : ByteArray) : Nat :=
  let sum (start stop : Nat) : Nat := block.foldl (fun sum byte => sum + byte.toNat) 0 start stop
  let stop := Field.checksum.start + Field.checksum.size
  sum 0 Field.checksum.start + Field.checksum.size * 0x20 + sum stop blockSize

end Tar
end FlashSlots
