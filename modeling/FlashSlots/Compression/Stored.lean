import FlashSlots.Compression.Writers

namespace FlashSlots
namespace Compression

/-!
# Storing

A deflated text may hold its octets as they are, in blocks of limited length.
That makes nothing shorter, but it takes no search for repetitions and no code.
Where no better writer is at hand, texts are stored.
-/

/-- The greatest length of a stored block. -/
def maxStored : Nat := 65535

/-- A number in two octets, the lower one first. -/
def octets16 (n : Nat) : ByteArray :=
  ⟨#[UInt8.ofNat (n % 256), UInt8.ofNat (n / 256)]⟩

/-- A stored block: whether it is the last one, its length, the complement of
its length, and its octets. -/
def storedBlock (last : Bool) (content : ByteArray) : ByteArray :=
  (⟨#[if last then 1 else 0]⟩ : ByteArray) ++ octets16 content.size ++
    octets16 (maxStored - content.size) ++ content

/-- The text from a position on, in stored blocks. -/
def storeFrom (text : ByteArray) (start : Nat) : ByteArray :=
  if text.size ≤ start + maxStored then storedBlock true (text.extract start text.size)
  else
    storedBlock false (text.extract start (start + maxStored)) ++
      storeFrom text (start + maxStored)
  termination_by text.size - start
  decreasing_by
    simp only [maxStored] at *
    omega

/-- A deflated form of a text. -/
def store (text : ByteArray) : ByteArray := storeFrom text 0

namespace Zlib

/-- Four octets of a number, the highest one first. -/
def octets32 (n : Nat) : ByteArray :=
  ⟨#[UInt8.ofNat (n / 16777216), UInt8.ofNat (n / 65536), UInt8.ofNat (n / 256), UInt8.ofNat n]⟩

/-- A header with the usual window, for the highest level. -/
def plainHeader : ByteArray := ⟨#[0x78, 0xDA]⟩

/-- A stream that holds a text as it is. -/
def stored (text : ByteArray) : ByteArray :=
  plainHeader ++ store text ++ octets32 (Checksum.adler32 text)

end Zlib

namespace Gzip

/-- Four octets of a number, the lowest one first. -/
def octets32 (n : Nat) : ByteArray := octets16 (n % 65536) ++ octets16 (n / 65536 % 65536)

/-- The header of a file without notes. -/
def plainHeader : ByteArray := ⟨#[0x1F, 0x8B, 8, 0, 0, 0, 0, 0, 0, 0xFF]⟩

/-- A file that holds a text as it is. -/
def stored (text : ByteArray) : ByteArray :=
  plainHeader ++ store text ++ octets32 (Checksum.crc32 text).toNat ++ octets32 text.size

end Gzip

/-- Texts are stored, whatever the level. -/
instance storing : Writers where
  deflate _ text := Zlib.stored text
  gzip text := Gzip.stored text

end Compression
end FlashSlots
