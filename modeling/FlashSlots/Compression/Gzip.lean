import FlashSlots.Checksum.Crc32
import FlashSlots.Compression.Inflate
import FlashSlots.Octets

namespace FlashSlots
namespace Compression

/-!
# Compressed files

A compressed file is a deflated text between a header, which may hold a file
name and other notes, and a trailer with the check value and the length of the
text.

A reader takes the text piece by piece and may stop early; then it never sees
the trailer.  So unpacking gives the text that a reader gets, and whether it
may read on at the end of it: that needs a text without faults and a trailer
that fits.  Of a corrupt text the piece with the fault is lost.
-/

namespace Gzip

/-- What a reader gets. -/
structure Unpacked where
  text : ByteArray
  /-- The text ends here and has been checked. -/
  complete : Bool

/-- Flags of the header. -/
structure Flags where
  checked : Bool
  extra : Bool
  name : Bool
  comment : Bool

/-- The flags in an octet, unless one is set that has no meaning. -/
def Flags.ofOctet? (octet : UInt8) : Option Flags :=
  let n := octet.toNat
  if 32 ≤ n then none
  else some ⟨n / 2 % 2 == 1, n / 4 % 2 == 1, n / 8 % 2 == 1, n / 16 % 2 == 1⟩

/-- A note in the header is at most this long. -/
def maxNote : Nat := 65535

/-- The position behind the zero that ends a note. -/
def skipNote? (input : ByteArray) (position : Nat) : Nat -> Option Nat
  | 0 => none
  | fuel + 1 =>
    if position < input.size then
      if Octets.octet input position = 0 then some (position + 1)
      else skipNote? input (position + 1) fuel
    else none

/-- A number in two octets, the lower one first. -/
def number16? (input : ByteArray) (position : Nat) : Option Nat :=
  if position + 2 ≤ input.size then some (number16 input position) else none

/-- A number in four octets, the lowest one first. -/
def number32? (input : ByteArray) (position : Nat) : Option Nat := do
  let low ← number16? input position
  let high ← number16? input (position + 2)
  return low + 65536 * high

/-- The position behind the header, if there is one. -/
def header? (input : ByteArray) : Option Nat := do
  if input.size < 10 then none
  if Octets.octet input 0 != 0x1F || Octets.octet input 1 != 0x8B || Octets.octet input 2 != 8 then none
  let flags ← Flags.ofOctet? (Octets.octet input 3)
  let position ← if flags.extra then do
      let length ← number16? input 10
      if 12 + length ≤ input.size then some (12 + length) else none
    else some 10
  let position ← if flags.name then skipNote? input position (maxNote + 1) else some position
  let position ← if flags.comment then skipNote? input position (maxNote + 1) else some position
  if flags.checked then
    let check ← number16? input position
    if (Checksum.crc32Range input 0 position).toNat % 65536 = check then some (position + 2)
    else none
  else some position

/-- A reader takes pieces of this size, of the file and of the text. -/
def pieceSize : Nat := 32768

/-- How much of a corrupt text comes before the piece with the fault.  A piece
ends where a piece of the text is full or a piece of the file is used up. -/
def soundSize (input : ByteArray) (start : Nat) (inflated : Inflated) : Nat :=
  let full := inflated.text.size / pieceSize * pieceSize
  let used := inflated.position / 8 / pieceSize * pieceSize
  if used ≤ start then full
  else max full (inflate ⟨none, true⟩ (input.extract 0 used) start).text.size

/-- The trailer at this position belongs to the text. -/
def trailerFits (input : ByteArray) (position : Nat) (text : ByteArray) : Bool :=
  number32? input position == some (Checksum.crc32 text).toNat &&
    number32? input (position + 4) == some (text.size % 4294967296)

/-- What a reader of a file gets. -/
def unpack (input : ByteArray) : Unpacked :=
  match header? input with
  | none => ⟨.empty, false⟩
  | some start =>
    let inflated := inflate ⟨none, true⟩ input start
    match inflated.ending with
    | .ok () =>
      ⟨inflated.text, trailerFits input (octetBoundary inflated.position / 8) inflated.text⟩
    | .error .truncated => ⟨inflated.text, false⟩
    | .error .corrupt => ⟨inflated.text.extract 0 (soundSize input start inflated), false⟩

end Gzip
end Compression
end FlashSlots
