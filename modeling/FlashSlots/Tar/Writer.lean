import FlashSlots.FileTree.Path
import FlashSlots.Octets
import FlashSlots.Tar.Field

namespace FlashSlots
namespace Tar

/-!
# Writing an archive

A file becomes a header and its content, filled up to whole blocks; two blocks
of zeros end the archive.  A name that is too long for the header gets an entry
of its own in front, and the header holds the beginning of it.  Names that lead
out of the archive are refused.
-/

/-- Octal digits with a zero octet behind them, in a field of this size. -/
def octalField (size value : Nat) : List UInt8 :=
  let digits := Nat.toDigits 8 value
  (List.replicate (size - 1 - digits.length) '0' ++ digits).map
    (fun digit => UInt8.ofNat digit.toNat) ++ [0]

/-- The eight octets of a number, the highest one first. -/
def octets64 (value : Nat) : List UInt8 :=
  [56, 48, 40, 32, 24, 16, 8, 0].map fun shift => UInt8.ofNat (value / Nat.pow 2 shift)

/-- The first length that does not fit into a field of digits. -/
def octalLimit : Nat := 8589934592

/-- The field of a length: in digits if they suffice, and otherwise a binary
number. -/
def lengthField (length : Nat) : List UInt8 :=
  if length < octalLimit then octalField 12 length else [0x80, 0, 0, 0] ++ octets64 length

/-- The octets of a field, filled up with zeros. -/
def filled (size : Nat) (octets : List UInt8) : List UInt8 :=
  octets ++ List.replicate (size - octets.length) 0

/-- A header without its checksum.  An empty list stands for zeros. -/
def headerOctets (name owner : List UInt8) (length : Nat) (kind : UInt8)
    (checksum : List UInt8) : List UInt8 :=
  filled 100 name ++ octalField 8 0o644 ++ filled 8 owner ++ filled 8 owner ++
    lengthField length ++ octalField 12 0 ++ checksum ++ [kind] ++ filled 100 [] ++
    "ustar  \x00".toUTF8.data.toList ++ filled 247 []

def header (name owner : List UInt8) (length : Nat) (kind : UInt8) : ByteArray :=
  let octets (checksum : List UInt8) : ByteArray :=
    ⟨(headerOctets name owner length kind checksum).toArray⟩
  octets (octalField 8 (blockSum (octets (List.replicate 8 0x20))))

/-- A content, filled up to whole blocks. -/
def padded (content : ByteArray) : ByteArray :=
  content ++ Octets.fill 0 ((blockSize - content.size % blockSize) % blockSize)

/-! ## Names -/

def octets (text : String) : List UInt8 := text.toUTF8.data.toList

/-- The length of a name field. -/
def nameSize : Nat := 100

/-- The name field while a name is put into it: what it holds, and where the
next part goes. -/
structure Slot where
  held : List UInt8
  used : Nat

namespace Slot

def empty : Slot := ⟨[], 0⟩

/-- Put octets into the field, with a zero behind them if there is room.  There
is no room for octets that do not fit as a whole, nor for a zero. -/
def put (slot : Slot) (part : List UInt8) : Except Slot Slot :=
  if nameSize < slot.used + part.length || part.contains 0 then .error slot
  else
    let written := slot.held.take slot.used ++ part
    let rest := slot.held.drop (slot.used + part.length)
    let rest := if slot.used + part.length = nameSize then [] else 0 :: rest.drop 1
    .ok ⟨written ++ rest, slot.used + part.length⟩

end Slot

/-- A part of a name that stands between slashes. -/
inductive Part where
  | root
  | here
  | above
  | name (text : String)

/-- The parts of a name.  Only in front a single dot is a part. -/
def parts (name : String) : List Part :=
  let pieces := (Path.names name).map fun piece =>
    if piece = "." then Part.here else if piece = ".." then Part.above else Part.name piece
  let inner := pieces.filter fun
    | .here => false
    | _ => true
  if Path.isAbsolute name then Part.root :: inner
  else
    match pieces with
    | .here :: _ => Part.here :: inner
    | _ => inner

/-- Put parts into the field, with slashes between them.  A part that leads up
is taken only as the last part of a name that was cut. -/
def putParts (cut : Bool) (alone first : Bool) (slot : Slot) : List Part -> Except Slot Slot
  | [] => .ok slot
  | part :: rest =>
    let text? : Option String := match part with
      | .root => none
      | .here => if alone then some "." else some ""
      | .above => if cut && rest.isEmpty then some ".." else none
      | .name text => some text
    match text? with
    | none => .error slot
    | some "" => putParts cut alone first slot rest
    | some text => do
      let slot ← if first then .ok slot else slot.put [0x2F]
      let slot ← slot.put (octets text)
      putParts cut alone false slot rest

/-- Put a name into the field. -/
def putName (cut : Bool) (slot : Slot) (name : String) : Except Slot Slot :=
  match parts name with
  | [] => .error slot
  | parts => do
    let slot ← putParts cut (parts.length == 1) true { slot with used := 0 } parts
    if Path.endsInSlash name then slot.put [0x2F] else .ok slot

/-- The longest beginning of a text with at most so many octets. -/
def cutText : Nat -> List Char -> List Char
  | _, [] => []
  | room, char :: rest =>
    if char.utf8Size ≤ room then char :: cutText (room - char.utf8Size) rest else []

/-- The entry for a name that is too long. -/
def longNameEntry (name : String) : ByteArray :=
  header (octets "././@LongLink") (octalField 8 0) (name.utf8ByteSize + 1) 0x4C ++
    padded (name.toUTF8.push 0)

/-- What stands in front of a header for this name, and the name field. -/
def nameField? (name : String) : Option (ByteArray × List UInt8) :=
  match putName false .empty name with
  | .ok slot => some (.empty, slot.held)
  | .error slot =>
    if name.utf8ByteSize < nameSize then none
    else
      match putName true slot (String.ofList (cutText nameSize name.toList)) with
      | .ok slot => some (longNameEntry name, slot.held)
      | .error _ => none

/-- The entry of a file. -/
def entry? (name : String) (content : ByteArray) : Option ByteArray := do
  let (front, field) ← nameField? name
  return front ++ header field [] content.size 0 ++ padded content

/-- The entries of files, unless a name is refused. -/
def entries? : List (String × ByteArray) -> Option ByteArray
  | [] => some .empty
  | (name, content) :: rest => do
    let first ← entry? name content
    let others ← entries? rest
    return first ++ others

def archive? (files : List (String × ByteArray)) : Option ByteArray := do
  let entries ← entries? files
  return entries ++ Octets.fill 0 (2 * blockSize)

end Tar
end FlashSlots
