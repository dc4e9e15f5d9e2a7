import FlashSlots.Compression.Gzip
import FlashSlots.Octets
import FlashSlots.Tar.Field
import FlashSlots.Text.Decimal

namespace FlashSlots
namespace Tar

open Compression.Gzip (Unpacked)

/-!
# Reading an archive

An archive is a sequence of entries, each a header with the content behind it,
filled up to whole blocks.  It ends at the first header of zeros or where the
octets end.  Some entries describe the one that follows them: they give a name
that does not fit into a header, or a list of properties.

The octets may end before the archive does, or reading may not be possible up
to their end.  Either is noticed only by what needs the octets that are
missing.  `members` lists what a reader finds; a fault is the last item.
-/

/-- The content of an archive, as far as it can be read. -/
abbrev Source := Unpacked

namespace Source

/-- Octets that have to be there. -/
def exactly (source : Source) (position length : Nat) : Option ByteArray :=
  if position + length ≤ source.text.size then
    some (source.text.extract position (position + length))
  else none

/-- As many octets as there are, up to a length.  If some are missing it must be
known that there are no more. -/
def upTo (source : Source) (position length : Nat) : Option ByteArray :=
  if position + length ≤ source.text.size || source.complete then
    some (source.text.extract position (position + length))
  else none

end Source

/-- How a header is laid out. -/
inductive Format where
  | old
  | standard
  | extended
  deriving DecidableEq

/-- The format that a header claims. -/
def format (header : ByteArray) : Format :=
  let magic := Field.magic.get header
  if magic = "ustar\x0000".toUTF8.data.toList then .standard
  else if magic = "ustar  \x00".toUTF8.data.toList then .extended
  else .old

/-- The kind of an entry. -/
def kind (header : ByteArray) : Char := Char.ofNat (Octets.octet header Field.kind.start).toNat

/-- The name in a header.  A standard header may hold the front part of it in a
field of its own. -/
def headerName (header : ByteArray) : List UInt8 :=
  let name := text (Field.name.get header)
  let front := text (Field.leading.get header)
  if format header = .standard && !front.isEmpty then front ++ [0x2F] ++ name else name

/-! ## Properties -/

/-- The lines of a list of properties: what stands between newlines. -/
def splitLines : List UInt8 -> List (List UInt8)
  | [] => [[]]
  | byte :: rest =>
    if byte = 0x0A then [] :: splitLines rest
    else
      match splitLines rest with
      | [] => [[byte]]
      | line :: more => (byte :: line) :: more

/-- A decimal number, possibly with a plus sign. -/
def decimalNumber? (digits : List UInt8) : Option Nat :=
  let digits := if digits.head? = some 0x2B then digits.drop 1 else digits
  if digits.isEmpty || !digits.all Text.isDigit then none
  else if Text.decimalValue digits < numberLimit then some (Text.decimalValue digits)
  else none

/-- A line with its length, a blank, a key and a value. -/
def property? (line : List UInt8) : Option (List UInt8 × List UInt8) := do
  let length ← decimalNumber? (line.takeWhile (· != 0x20))
  let rest := (line.dropWhile (· != 0x20)).drop 1
  if line.length + 1 = length && line.contains 0x20 && rest.contains 0x3D then
    some (rest.takeWhile (· != 0x3D), (rest.dropWhile (· != 0x3D)).drop 1)
  else none

/-- The properties of a list, up to the first empty line.  A line that is not
well formed has no value. -/
def properties (content : List UInt8) : List (Option (List UInt8 × List UInt8)) :=
  ((splitLines content).takeWhile fun line => !line.isEmpty).map property?

/-- The value of the first property with this key. -/
def propertyValue? (key : String) (content : List UInt8) : Option (List UInt8) :=
  ((properties content).filterMap id).lookup key.toUTF8.data.toList

/-- The length that the properties give, if no line before it is damaged. -/
def propertyLength? (content : List UInt8) : Option Nat :=
  let sound := ((properties content).takeWhile Option.isSome).filterMap id
  (sound.lookup "size".toUTF8.data.toList).bind decimalNumber?

/-! ## Sparse entries -/

/-- A run of octets in a sparse file. -/
structure SparseRun where
  offset : Nat
  length : Nat

/-- The runs in a map: pairs of fields.  Unused pairs are passed over. -/
def sparseRuns? : Nat -> List UInt8 -> Option (List SparseRun)
  | 0, _ => some []
  | count + 1, fields => do
    let rest ← sparseRuns? count (fields.drop 24)
    if fields.head? = some 0 || (fields.drop 12).head? = some 0 then some rest
    else
      let offset ← octal? (fields.take 12)
      let length ← octal? ((fields.drop 12).take 12)
      some (⟨offset, length⟩ :: rest)

/-- Where the runs end, if they are in order and use up exactly the stored
octets.  Every run but the last fills whole blocks. -/
def sparseEnd? (stored : Nat) : Nat -> Nat -> List SparseRun -> Option Nat
  | stop, used, [] => if used = stored then some stop else none
  | stop, used, run :: rest =>
    if run.length ≠ 0 && used % blockSize ≠ 0 then none
    else if run.offset < stop then none
    else if numberLimit ≤ run.offset + run.length then none
    else if stored < used + run.length then none
    else sparseEnd? stored (run.offset + run.length) (used + run.length) rest

/-- The runs in the blocks that continue a map, and the position behind them. -/
def sparseBlocks? (source : Source) : Nat -> Nat -> Option (List SparseRun × Nat)
  | 0, _ => none
  | fuel + 1, position => do
    let block ← source.exactly position blockSize
    let runs ← sparseRuns? 21 block.data.toList
    if Octets.octet block 504 = 1 then
      let (more, stop) ← sparseBlocks? source fuel (position + blockSize)
      some (runs ++ more, stop)
    else some (runs, position + blockSize)

/-- How far the map of a sparse entry goes beyond its header, if it is sound. -/
def sparseMap? (source : Source) (header : ByteArray) (position stored : Nat) : Option Nat := do
  if format header != .extended then none
  let runs ← sparseRuns? 4 (Field.sparseMap.get header)
  let (more, stop) ← if (Field.sparseMore.get header).head? = some 1 then
      sparseBlocks? source (source.text.size / blockSize + 1) position
    else some ([], position)
  let size ← octal? (Field.sparseSize.get header)
  let found ← sparseEnd? stored 0 0 (runs ++ more)
  if found = size then some (stop - position) else none

/-! ## Entries -/

/-- A header with the place of its content. -/
structure RawEntry where
  header : ByteArray
  start : Nat
  length : Nat
  /-- Where the next header stands. -/
  next : Nat

/-- What stands at a position. -/
inductive Found where
  | entry (entry : RawEntry)
  /-- The archive ends. -/
  | ending

/-- The length of the content: that of the header, or else of the properties. -/
def contentLength? (header : ByteArray) (properties : Option (List UInt8)) : Option Nat := do
  let length ← number? (Field.length.get header)
  if length = 0 then some ((properties.bind propertyLength?).getD 0) else some length

/-- The header at a position.  There is none if something is wrong with it. -/
def rawEntry? (source : Source) (position : Nat) (properties : Option (List UInt8)) :
    Option Found :=
  if source.text.size = position then if source.complete then some .ending else none
  else do
    let header ← source.exactly position blockSize
    if header.data.all (· == 0) then some .ending
    else
      let checksum ← octal? (Field.checksum.get header)
      if checksum % 4294967296 ≠ blockSum header then none
      let length ← contentLength? header properties
      let start := position + blockSize
      if numberLimit ≤ length + (blockSize - 1) then none
      let next := start + (length + (blockSize - 1)) / blockSize * blockSize
      if numberLimit ≤ next then none
      some (.entry ⟨header, start, length, next⟩)

/-- What an archive holds under a name. -/
structure Member where
  name : List UInt8
  /-- It is a file, not a directory or a link. -/
  isFile : Bool
  /-- Nothing if it cannot be read. -/
  content : Option ByteArray

/-- What is known of an entry before its header is reached. -/
structure Announced where
  name : Option (List UInt8)
  link : Bool
  properties : Option (List UInt8)

namespace Announced

def nothing : Announced := ⟨none, false, none⟩

def isNothing (announced : Announced) : Bool :=
  announced.name.isNone && !announced.link && announced.properties.isNone

end Announced

/-- A name without the zero that ends it. -/
def dropZero (name : List UInt8) : List UInt8 :=
  if name.getLast? = some 0 then name.dropLast else name

/-- The name of an entry. -/
def memberName (announced : Announced) (header : ByteArray) : List UInt8 :=
  match announced.name with
  | some name => dropZero name
  | none => ((announced.properties.bind (propertyValue? "path")).getD (headerName header))

/-- The header is one of a file. -/
def isFile (header : ByteArray) : Bool := kind header == '0' || kind header == '\x00'

/-- The entry as a reader finds it. -/
def member (source : Source) (announced : Announced) (entry : RawEntry) : Member :=
  ⟨memberName announced entry.header, isFile entry.header,
    source.upTo entry.start entry.length⟩

/-- What an entry is for. -/
inductive Role where
  /-- It gives the name of the next entry. -/
  | name
  /-- It gives where the next entry, a link, leads to. -/
  | link
  /-- It gives properties of the next entry. -/
  | properties
  | sparse
  | member
  deriving DecidableEq

/-- The old format only has entries that stand for themselves. -/
def role (header : ByteArray) : Role :=
  let described := format header != .old
  if described && kind header == 'L' then .name
  else if described && kind header == 'K' then .link
  else if described && kind header == 'x' then .properties
  else if kind header == 'S' then .sparse
  else .member

/-- What is known after an entry that describes the next one.  Nothing may be
given twice. -/
def Announced.add? (announced : Announced) (role : Role) (content : List UInt8) :
    Option Announced :=
  match role with
  | .name =>
    if announced.name.isSome then none else some { announced with name := some content }
  | .link => if announced.link then none else some { announced with link := true }
  | .properties =>
    if announced.properties.isSome then none
    else some { announced with properties := some content }
  | .sparse => none
  | .member => none

/-- What a reader gets from the header at a position. -/
inductive Progress where
  | fault
  | ending
  /-- A member, and where the next header stands. -/
  | found (member : Member) (next : Nat)
  /-- What is known of the next entry, and where its header stands. -/
  | described (known : Announced) (next : Nat)

def progress (source : Source) (position : Nat) (announced : Announced) : Progress :=
  match rawEntry? source position announced.properties with
  | none => .fault
  | some .ending => if announced.isNothing then .ending else .fault
  | some (.entry entry) =>
    match role entry.header with
    | .member => .found (member source announced entry) entry.next
    | .sparse =>
      match sparseMap? source entry.header entry.start entry.length with
      | none => .fault
      | some extra => .found (member source announced entry) (entry.next + extra)
    | describing =>
      match (source.upTo entry.start entry.length).bind fun content =>
          announced.add? describing content.data.toList with
      | none => .fault
      | some known => .described known entry.next

/-- What is found, with what the rest of the archive holds.  `none` stands for a
fault. -/
def Progress.members (rest : Nat -> Announced -> List (Option Member)) :
    Progress -> List (Option Member)
  | fault => [none]
  | ending => []
  | found member next => some member :: rest next .nothing
  | described known next => rest next known

/-- What an archive holds from a position on.  Every entry takes at least a
block. -/
def membersFrom (source : Source) : Nat -> Nat -> Announced -> List (Option Member)
  | 0, _, _ => [none]
  | fuel + 1, position, announced =>
    (progress source position announced).members fun next known =>
      membersFrom source fuel next known

/-- What an archive holds. -/
def members (source : Source) : List (Option Member) :=
  membersFrom source (source.text.size / blockSize + 2) 0 .nothing

end Tar
end FlashSlots
