import FlashSlots.Compression.Gzip
import FlashSlots.Compression.Zlib

namespace FlashSlots
namespace Compression

/-!
# Writing compressed data

The formats determine how compressed data are read.  They leave it to a writer
how far it goes to make a text short, so that two writers seldom agree on the
octets.  What all of them owe their users is that a reader gets the text back.
-/

/-- What writes compressed data. -/
class Writers where
  /-- A checked stream for a text.  A higher level takes more effort. -/
  deflate : UInt8 -> ByteArray -> ByteArray
  /-- A compressed file for a text, at the usual level. -/
  gzip : ByteArray -> ByteArray

/-- Texts come back from their streams, if the reader does not set a limit that
they exceed. -/
def Zlib.Lossless (write : ByteArray -> ByteArray) : Prop :=
  ∀ limit text, text.size ≤ limit -> decompress? limit (write text) = some text

/-- Texts come back from their files, and the files are complete. -/
def Gzip.Lossless (write : ByteArray -> ByteArray) : Prop :=
  ∀ text, unpack (write text) = ⟨text, true⟩

end Compression
end FlashSlots
