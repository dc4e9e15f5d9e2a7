import FlashSlots.Json.Text
import FlashSlots.Proofs.Text.Lossy

namespace FlashSlots
namespace Json
namespace Piece

/-!
# The text of a string

In a string of a document each character stands as its octets, as one code
unit, or as two code units that are the halves of a pair, whichever is
preferred.  A string that consists of characters in this sense has their text.
-/

/-- The pieces stand for these characters, one after the other. -/
inductive Denotes : List Piece -> List Char -> Prop where
  | nil : Denotes [] []
  | octets (char : Char) {pieces : List Piece} {chars : List Char} (behind : Denotes pieces chars) :
    Denotes ((String.utf8EncodeChar char).map octet ++ pieces) (char :: chars)
  | unit (char : Char) (lower : 0x80 ≤ char.toNat) (upper : char.toNat < 0x10000)
      {pieces : List Piece} {chars : List Char} (behind : Denotes pieces chars) :
    Denotes (.unit char.toNat :: pieces) (char :: chars)
  | pair (char : Char) {high low : Nat} (first : 0xD800 ≤ high ∧ high ≤ 0xDBFF)
      (second : 0xDC00 ≤ low ∧ low ≤ 0xDFFF)
      (number : char.toNat = 0x10000 + (high - 0xD800) * 0x400 + (low - 0xDC00))
      {pieces : List Piece} {chars : List Char} (behind : Denotes pieces chars) :
    Denotes (.unit high :: .unit low :: pieces) (char :: chars)

theorem collect_map_octet (done octets : List UInt8) (pieces : List Piece) :
    collect done (octets.map octet ++ pieces) = collect (octets.reverse ++ done) pieces := by
  induction octets generalizing done with
  | nil => rfl
  | cons byte rest ih =>
    rw [List.map_cons, List.cons_append, collect, ih, List.reverse_cons, List.append_assoc,
      List.singleton_append]

/-- A code unit that is no half of a pair is a character. -/
theorem collect_unit (done : List UInt8) (char : Char) (pieces : List Piece) :
    collect done (.unit char.toNat :: pieces) =
      collect ((String.utf8EncodeChar char).reverse ++ done) pieces := by
  have valid := (Text.char_bounds char).1
  have noHigh : isHighSurrogate char.toNat = false := by
    rw [isHighSurrogate, Bool.and_eq_false_iff, decide_eq_false_iff_not, decide_eq_false_iff_not]
    omega
  have noLow : isLowSurrogate char.toNat = false := by
    rw [isLowSurrogate, Bool.and_eq_false_iff, decide_eq_false_iff_not, decide_eq_false_iff_not]
    omega
  rcases pieces with _ | ⟨byte | low, rest⟩
  all_goals
    simp only [collect, noHigh, noLow, Char.ofNat_toNat, Bool.or_self, Bool.false_eq_true, if_false]

theorem collect_pair (done : List UInt8) (char : Char) {high low : Nat}
    (first : 0xD800 ≤ high ∧ high ≤ 0xDBFF) (second : 0xDC00 ≤ low ∧ low ≤ 0xDFFF)
    (number : char.toNat = 0x10000 + (high - 0xD800) * 0x400 + (low - 0xDC00))
    (pieces : List Piece) :
    collect done (.unit high :: .unit low :: pieces) =
      collect ((String.utf8EncodeChar char).reverse ++ done) pieces := by
  have isHigh : isHighSurrogate high = true :=
    Bool.and_eq_true_iff.mpr ⟨decide_eq_true first.1, decide_eq_true first.2⟩
  have isLow : isLowSurrogate low = true :=
    Bool.and_eq_true_iff.mpr ⟨decide_eq_true second.1, decide_eq_true second.2⟩
  have whole : joined high low = char.toNat := number.symm
  simp only [collect, isHigh, isLow, if_true, whole, Char.ofNat_toNat]

theorem collect_of_denotes (done : List UInt8) {pieces : List Piece} {chars : List Char}
    (denotes : Denotes pieces chars) :
    collect done pieces = some (done.reverse ++ chars.flatMap String.utf8EncodeChar) := by
  induction denotes generalizing done with
  | nil => simp [collect]
  | octets char behind ih => simp [collect_map_octet, ih]
  | unit char lower upper behind ih => simp [collect_unit, ih]
  | pair char first second number behind ih => simp [collect_pair done char first second number, ih]

theorem text?_ofString (text : String) : text? (ofString text) = some text := by
  have valid := text.isValidUTF8
  simp only [text?, ofString, octets?_map_octet, Option.bind_eq_bind,
    Option.bind_some, Array.toArray_toList, String.toUTF8_eq_toByteArray, String.fromUTF8?]
  rw [dif_pos valid]
  rfl

theorem text?_of_denotes {pieces : List Piece} {text : String}
    (denotes : Denotes pieces text.toList) : text? pieces = some text := by
  have octets : octets? pieces = octets? (ofString text) := by
    rw [ofString, octets?_map_octet, Text.toList_toUTF8, octets?, collect_of_denotes [] denotes]
    rfl
  rw [text?, octets, ← text?]
  exact text?_ofString text

theorem denotes_flatMap (chars : List Char) :
    Denotes ((chars.flatMap String.utf8EncodeChar).map octet) chars := by
  induction chars with
  | nil => exact .nil
  | cons char rest ih =>
    rw [List.flatMap_cons, List.map_append]
    exact .octets char ih

theorem denotes_ofString (text : String) : Denotes (ofString text) text.toList := by
  rw [ofString, Text.toList_toUTF8]
  exact denotes_flatMap text.toList

end Piece
end Json
end FlashSlots
