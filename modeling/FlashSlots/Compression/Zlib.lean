import FlashSlots.Checksum.Adler32
import FlashSlots.Compression.Inflate
import FlashSlots.Octets

namespace FlashSlots
namespace Compression

/-!
# Checked streams

A checked stream is a deflated text between a header of two octets and the
check value of the text.  The header names the method and the window, and is
divisible by 31.  What follows the check value does not belong to the stream.
-/

namespace Zlib

/-- The header is one of a deflated text with a usual window and no
dictionary. -/
def isHeader (first second : Nat) : Bool :=
  (first * 256 + second) % 31 == 0 && first % 16 == 8 && decide (first / 16 ≤ 7) &&
    second / 32 % 2 == 0

/-- A number in four octets, the highest one first. -/
def number32 (input : ByteArray) (start : Nat) : Nat :=
  ((Octets.octet input start).toNat * 256 + (Octets.octet input (start + 1)).toNat) * 65536 +
    (Octets.octet input (start + 2)).toNat * 256 + (Octets.octet input (start + 3)).toNat

/-- The text of a stream, unless it is longer than the limit. -/
def decompress? (limit : Nat) (input : ByteArray) : Option ByteArray :=
  if input.size < 2 then none
  else if !isHeader (Octets.octet input 0).toNat (Octets.octet input 1).toNat then none
  else
    let inflated := inflate ⟨some limit, false⟩ input 2
    match inflated.ending with
    | .error _ => none
    | .ok () =>
      let start := octetBoundary inflated.position / 8
      if input.size < start + 4 then none
      else if number32 input start = Checksum.adler32 inflated.text then some inflated.text
      else none

end Zlib
end Compression
end FlashSlots
