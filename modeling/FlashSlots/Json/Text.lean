namespace FlashSlots
namespace Json

/-!
# Strings of a JSON document

Between its quotes a string is a sequence of pieces: octets, which stand for
themselves or for a short escape, and code units written with four digits.
A string may hold octets that are not UTF-8 and code units that do not pair
up.  It is well formed all the same, but it has no text.  So reading a document
and taking the text of one of its strings are two steps, and a string that
nobody looks at needs no text.

A code unit below `0x80` is an octet of its own and is kept as one.
-/

/-- A piece of a string. -/
inductive Piece where
  /-- An octet of the encoded text. -/
  | octet (byte : UInt8)
  /-- A code unit from `0x80` to `0xFFFF`. -/
  | unit (code : Nat)
  deriving DecidableEq

namespace Piece

def ofUnit (code : Nat) : Piece :=
  if code < 0x80 then octet (UInt8.ofNat code) else unit code

/-- The first half of a pair. -/
def isHighSurrogate (code : Nat) : Bool := decide (0xD800 ≤ code) && decide (code ≤ 0xDBFF)

/-- The second half of a pair. -/
def isLowSurrogate (code : Nat) : Bool := decide (0xDC00 ≤ code) && decide (code ≤ 0xDFFF)

/-- The character that two halves make up. -/
def joined (high low : Nat) : Nat := 0x10000 + (high - 0xD800) * 0x400 + (low - 0xDC00)

/-- The octets that the pieces stand for, behind those collected in `done`.
A code unit that is half of a pair needs the other half right behind it. -/
def collect (done : List UInt8) : List Piece -> Option (List UInt8)
  | [] => some done.reverse
  | octet byte :: rest => collect (byte :: done) rest
  | unit high :: unit low :: rest =>
    if isHighSurrogate high then
      if isLowSurrogate low then
        collect ((String.utf8EncodeChar (Char.ofNat (joined high low))).reverse ++ done) rest
      else none
    else if isLowSurrogate high then none
    else collect ((String.utf8EncodeChar (Char.ofNat high)).reverse ++ done) (unit low :: rest)
  | unit code :: rest =>
    if isHighSurrogate code || isLowSurrogate code then none
    else collect ((String.utf8EncodeChar (Char.ofNat code)).reverse ++ done) rest

/-- The octets that the pieces stand for. -/
def octets? (pieces : List Piece) : Option (List UInt8) := collect [] pieces

def text? (pieces : List Piece) : Option String := do
  let octets <- octets? pieces
  String.fromUTF8? ⟨octets.toArray⟩

/-- A text as a string of the document. -/
def ofString (text : String) : List Piece := text.toUTF8.data.toList.map octet

theorem collect_octets (done octets : List UInt8) :
    collect done (octets.map octet) = some (done.reverse ++ octets) := by
  induction octets generalizing done with
  | nil => simp [collect]
  | cons byte rest ih =>
    rw [List.map_cons, collect, ih]
    simp

theorem octets?_map_octet (octets : List UInt8) :
    octets? (octets.map octet) = some octets :=
  collect_octets [] octets

end Piece
end Json
end FlashSlots
