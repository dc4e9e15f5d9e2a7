namespace FlashSlots
namespace Compression

/-!
# Reading bits

A compressed stream is a sequence of bits.  Each octet holds its lowest bit
first, and a number holds its lowest bit first as well.  A position counts
bits from the start of the stream.
-/

/-- Why a stream could not be read to its end. -/
inductive Fault where
  /-- The stream ends too early. -/
  | truncated
  /-- The stream is not a compressed text. -/
  | corrupt
  deriving DecidableEq

def bit (input : ByteArray) (position : Nat) : Except Fault Nat :=
  if inside : position / 8 < input.size then
    .ok ((input[position / 8].toNat >>> (position % 8)) % 2)
  else .error .truncated

/-- The number that the next `count` bits hold. -/
def bits (input : ByteArray) (position : Nat) : Nat -> Except Fault Nat
  | 0 => .ok 0
  | count + 1 =>
    match bit input position with
    | .error fault => .error fault
    | .ok low =>
      match bits input (position + 1) count with
      | .error fault => .error fault
      | .ok high => .ok (low + 2 * high)

/-- The first position at or behind this one where an octet starts. -/
def octetBoundary (position : Nat) : Nat := (position + 7) / 8 * 8

end Compression
end FlashSlots
