import FlashSlots.Proofs.Compression.Limit
import FlashSlots.Proofs.Compression.Storing

namespace FlashSlots
namespace Compression

/-!
# Storing is lossless

Both formats put a stored text between a header and its check value.  So a
reader gets the text back, and storing can stand in for any other writer.
-/

/-- The octet of a field that stands between others. -/
theorem octet_of_field (front : ByteArray) {field : ByteArray} {position : Nat}
    (inside : position < field.size) (back : ByteArray) :
    Octets.octet (front ++ (field ++ back)) (front.size + position) =
      Octets.octet field position :=
  (Octets.octet_append_right front _ position).trans (Octets.octet_append_left inside back)

namespace Zlib

theorem number32_octets32 (front back : ByteArray) {n : Nat} (small : n < 4294967296) :
    number32 (front ++ (octets32 n ++ back)) front.size = n := by
  have size : (octets32 n).size = 4 := rfl
  have first : Octets.octet (front ++ (octets32 n ++ back)) front.size =
      UInt8.ofNat (n / 16777216) :=
    octet_of_field front (show 0 < (octets32 n).size by rw [size]; decide) back
  have second : Octets.octet (front ++ (octets32 n ++ back)) (front.size + 1) =
      UInt8.ofNat (n / 65536) := octet_of_field front (by rw [size]; decide) back
  have third : Octets.octet (front ++ (octets32 n ++ back)) (front.size + 2) =
      UInt8.ofNat (n / 256) := octet_of_field front (by rw [size]; decide) back
  have fourth : Octets.octet (front ++ (octets32 n ++ back)) (front.size + 3) =
      UInt8.ofNat n := octet_of_field front (by rw [size]; decide) back
  rw [number32, first, second, third, fourth]
  simp only [UInt8.toNat_ofNat']
  omega

theorem adler32_lt (text : ByteArray) : Checksum.adler32 text < 4294967296 := by
  have bounded (bytes : List UInt8) (sums : Nat × Nat)
      (small : sums.1 < Checksum.adlerModulus ∧ sums.2 < Checksum.adlerModulus) :
      (bytes.foldl Checksum.adlerOctet sums).1 < Checksum.adlerModulus ∧
        (bytes.foldl Checksum.adlerOctet sums).2 < Checksum.adlerModulus := by
    induction bytes generalizing sums with
    | nil => exact small
    | cons byte rest ih =>
      exact ih _ ⟨Nat.mod_lt _ (by decide), Nat.mod_lt _ (by decide)⟩
  have sums := bounded ((text.data.toList.take text.size).drop 0) (1, 0) (by decide)
  rw [← Octets.foldl_eq Checksum.adlerOctet _ (Nat.le_refl text.size)] at sums
  unfold Checksum.adler32
  unfold Checksum.adlerModulus at sums
  dsimp only
  omega

/-- A stored text comes back under every limit that it meets. -/
theorem lossless_stored : Lossless stored := by
  intro limit text short
  let check := octets32 (Checksum.adler32 text)
  have shape : stored text = plainHeader ++ (store text ++ (check ++ .empty)) := by
    rw [ByteArray.append_empty]
    exact ByteArray.append_assoc
  have size : (stored text).size = (plainHeader ++ store text).size + 4 := ByteArray.size_append
  have header : isHeader (Octets.octet (stored text) 0).toNat
      (Octets.octet (stored text) 1).toNat = true := by
    rw [shape, Octets.octet_append_left (show 0 < plainHeader.size from Nat.two_pos),
      Octets.octet_append_left (show 1 < plainHeader.size from Nat.one_lt_two)]
    decide
  have inflated := inflate_store ⟨some limit, false⟩ plainHeader text (check ++ .empty)
  rw [← shape] at inflated
  change Restores _ _ _ (inflate ⟨some limit, false⟩ (stored text) 2) at inflated
  rw [Restores, exceeds, if_neg (by simpa using short)] at inflated
  have position : octetBoundary (8 * (plainHeader ++ store text).size) / 8 =
      (plainHeader ++ store text).size := by
    rw [octetBoundary]
    omega
  have sum : number32 (stored text) (plainHeader ++ store text).size = Checksum.adler32 text := by
    rw [shape, ← ByteArray.append_assoc]
    exact number32_octets32 _ _ (adler32_lt text)
  have long : 2 ≤ (plainHeader ++ store text).size := by
    rw [ByteArray.size_append]
    exact Nat.le_add_right 2 _
  have checked : Checked (stored text) ⟨text, 8 * (plainHeader ++ store text).size, .ok ()⟩ :=
    { long := by omega
      header := header
      ending := rfl
      closed := by
        rw [position]
        exact Nat.le_of_eq size.symm
      sum := by rw [position, sum] }
  rw [decompress?_eq_some_iff, inflated]
  exact ⟨checked, rfl⟩

end Zlib

namespace Gzip

theorem number16?_octets16 (front back : ByteArray) {n : Nat} (small : n < 65536) :
    number16? (front ++ (octets16 n ++ back)) front.size = some n := by
  have inside : front.size + 2 ≤ (front ++ (octets16 n ++ back)).size := by
    rw [ByteArray.size_append, ByteArray.size_append, size_octets16]
    omega
  rw [number16?, if_pos inside, number16_octets16 front back small]

theorem number32?_octets32 (front back : ByteArray) (n : Nat) :
    number32? (front ++ (octets32 n ++ back)) front.size = some (n % 4294967296) := by
  let low := octets16 (n % 65536)
  have shape : front ++ (octets32 n ++ back) =
      front ++ (low ++ (octets16 (n / 65536 % 65536) ++ back)) := by
    rw [octets32, ByteArray.append_assoc]
  have shape' : front ++ (octets32 n ++ back) =
      front ++ low ++ (octets16 (n / 65536 % 65536) ++ back) := by
    rw [shape, ByteArray.append_assoc]
  have behind : (front ++ low).size = front.size + 2 := ByteArray.size_append
  have first : number16? (front ++ (octets32 n ++ back)) front.size = some (n % 65536) := by
    rw [shape]
    exact number16?_octets16 _ _ (Nat.mod_lt _ (by decide))
  have second : number16? (front ++ (octets32 n ++ back)) (front.size + 2) =
      some (n / 65536 % 65536) := by
    rw [shape', ← behind]
    exact number16?_octets16 _ _ (Nat.mod_lt _ (by decide))
  rw [number32?, first, second]
  change some (n % 65536 + 65536 * (n / 65536 % 65536)) = some (n % 4294967296)
  congr 1
  omega

theorem header?_plainHeader (back : ByteArray) :
    header? (plainHeader ++ back) = some plainHeader.size := by
  have kept (position : Nat) (inside : position < 10) :
      Octets.octet (plainHeader ++ back) position = Octets.octet plainHeader position :=
    Octets.octet_append_left inside back
  have long : ¬ (plainHeader ++ back).size < 10 := by
    rw [ByteArray.size_append]
    exact Nat.not_lt.mpr (Nat.le_add_right 10 back.size)
  unfold header?
  rw [kept 0 (by decide), kept 1 (by decide), kept 2 (by decide), kept 3 (by decide), if_neg long]
  rfl

/-- A stored file is unpacked to its text, and is complete. -/
theorem lossless_stored : Lossless stored := by
  intro text
  let check := octets32 (Checksum.crc32 text).toNat
  let length := octets32 text.size
  have shape : stored text = plainHeader ++ (store text ++ (check ++ length)) := by
    change plainHeader ++ store text ++ check ++ length = _
    simp only [ByteArray.append_assoc]
  have atCheck : stored text = plainHeader ++ store text ++ (check ++ length) :=
    ByteArray.append_assoc
  have atLength : stored text = plainHeader ++ store text ++ check ++ (length ++ .empty) := by
    rw [ByteArray.append_empty]
    rfl
  have behind : (plainHeader ++ store text ++ check).size = (plainHeader ++ store text).size + 4 :=
    ByteArray.size_append
  have position : octetBoundary (8 * (plainHeader ++ store text).size) / 8 =
      (plainHeader ++ store text).size := by
    rw [octetBoundary]
    omega
  have checked : number32? (stored text) (plainHeader ++ store text).size =
      some (Checksum.crc32 text).toNat := by
    rw [atCheck, number32?_octets32, Nat.mod_eq_of_lt (Checksum.crc32 text).toNat_lt]
  have counted : number32? (stored text) ((plainHeader ++ store text).size + 4) =
      some (text.size % 4294967296) := by
    rw [atLength, ← behind]
    exact number32?_octets32 _ _ _
  have fits : trailerFits (stored text) (plainHeader ++ store text).size text = true := by
    rw [trailerFits, checked, counted]
    simp
  have header : header? (stored text) = some plainHeader.size := by
    rw [shape]
    exact header?_plainHeader _
  have inflated : inflate ⟨none, true⟩ (stored text) plainHeader.size =
      ⟨text, 8 * (plainHeader ++ store text).size, .ok ()⟩ := by
    rw [shape]
    exact inflate_store ⟨none, true⟩ plainHeader text (check ++ length)
  unfold unpack
  rw [header]
  dsimp only
  rw [inflated]
  dsimp only
  rw [position, fits]

end Gzip
end Compression
end FlashSlots
