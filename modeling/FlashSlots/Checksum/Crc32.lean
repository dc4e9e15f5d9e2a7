namespace FlashSlots
namespace Checksum

/-!
# The 32-bit cyclic redundancy check

The check value of a message is the remainder of a division of polynomials
over the field with two elements.  `shiftBit` divides one bit further.  A table
holds the effect of eight such steps on every octet, so that a message can be
divided octet by octet.
-/

/-- One step of the division.  The lowest bit stands for the highest power. -/
def shiftBit (rest : UInt32) : UInt32 :=
  if rest &&& 1 = 0 then rest >>> 1 else (rest >>> 1) ^^^ 0xEDB88320

/-- Eight steps. -/
def shiftOctet (rest : UInt32) : UInt32 :=
  shiftBit (shiftBit (shiftBit (shiftBit (shiftBit (shiftBit (shiftBit (shiftBit rest)))))))

/-- The effect of eight steps on every octet. -/
def crcTable : Array UInt32 := (Array.range 256).map fun n => shiftOctet (UInt32.ofNat n)

/-- Divide one octet further. -/
def crcOctet (rest : UInt32) (byte : UInt8) : UInt32 :=
  crcTable.getD ((rest ^^^ byte.toUInt32) &&& 0xFF).toNat 0 ^^^ (rest >>> 8)

/-- The check value of a part of a message. -/
def crc32Range (bytes : ByteArray) (start stop : Nat) : UInt32 :=
  bytes.foldl crcOctet 0xFFFFFFFF start stop ^^^ 0xFFFFFFFF

/-- The check value of a message. -/
def crc32 (bytes : ByteArray) : UInt32 := crc32Range bytes 0 bytes.size

end Checksum
end FlashSlots
