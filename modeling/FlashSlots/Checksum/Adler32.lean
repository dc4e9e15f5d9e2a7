namespace FlashSlots
namespace Checksum

/-!
# The two-sum check

The check value of a message is made of two sums modulo a prime: of the octets,
and of all the values that the first sum has taken.
-/

/-- The greatest prime below 65536. -/
def adlerModulus : Nat := 65521

/-- Add an octet to the two sums. -/
def adlerOctet (sums : Nat × Nat) (byte : UInt8) : Nat × Nat :=
  let first := (sums.1 + byte.toNat) % adlerModulus
  (first, (sums.2 + first) % adlerModulus)

/-- The check value of a message. -/
def adler32 (bytes : ByteArray) : Nat :=
  let sums := bytes.foldl adlerOctet (1, 0) 0 bytes.size
  sums.2 * 65536 + sums.1

end Checksum
end FlashSlots
