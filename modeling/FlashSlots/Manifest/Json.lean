import FlashSlots.Json.Reader
import FlashSlots.Layout
import FlashSlots.Manifest.Basic

namespace FlashSlots

open Json (Value Piece)

/-!
# Manifests as JSON

A manifest is written as an object with a fixed order of members; a field
without a value is left out.  Equal manifests have equal octets.

Reading goes through a draft, in which every field may be missing.  A document
is a draft if it is an object or an array of the right shape:

* of an object, the known members may each appear once, in any order, and
  other members are skipped;
* an array has the values of all fields, in the order in which they are
  written;
* the value `null` counts as missing, but the regions cannot be `null`.

A draft is a manifest once it has a name, and every region has a file name and
a size.  Whether a region is PSRAM-resident depends only on the presence of a
PSRAM address.
-/

/-- A region some of whose fields may be missing. -/
structure DraftRegion where
  filename : Option String
  size : Option UInt32
  flashAddress : Option UInt32
  destination : Option UInt32

/-- A manifest some of whose fields may be missing. -/
structure Draft where
  name : Option String
  brief : Option String
  video : Option String
  tag : Option String
  hardwareRevision : Option UInt32
  regions : List DraftRegion
  magic : Option UInt32

namespace Manifest

/-! ## Writing -/

def textMember (key : String) (text : Option String) : List (List Piece × Value) :=
  (text.map fun text => (Piece.ofString key, Value.text (Piece.ofString text))).toList

/-- A member with a number, if there is one. -/
def wordMember (key : String) (word : Option UInt32) : List (List Piece × Value) :=
  (word.map fun word => (Piece.ofString key, Value.natural word.toNat)).toList

/-- A region as JSON. -/
def regionValue (region : Region) : Value :=
  .object (textMember "filename" (some region.filename) ++ wordMember "size" (some region.size) ++
    wordMember "spiflash_src" region.flashAddress ++
    wordMember "psram_dst" region.kind.destination?)

/-- A manifest as JSON. -/
def toValue (manifest : Manifest) : Value :=
  .object (textMember "name" (some manifest.name) ++ textMember "brief" manifest.brief ++
    textMember "video" manifest.video ++ textMember "tag" manifest.tag ++
    wordMember "hw_rev" manifest.hardwareRevision ++
    [(Piece.ofString "regions", .list (manifest.regions.map regionValue))] ++
    wordMember "magic" manifest.magic)

/-- The document of a manifest. -/
def toJson (manifest : Manifest) : ByteArray := ⟨manifest.toValue.render.toArray⟩

/-- The document fits in the manifest region of a slot. -/
def fits (manifest : Manifest) : Bool := decide (manifest.toJson.size ≤ Layout.manifestSize)

/-! ## Reading -/

/-- The members of an object with the texts of their keys. -/
def keyed? (members : List (List Piece × Value)) : Option (List (String × Value)) :=
  members.mapM fun (key, value) => (Piece.text? key).map (·, value)

/-- The number of members with this key. -/
def occurrences (key : String) (members : List (String × Value)) : Nat :=
  members.countP fun member => member.1 == key

/-- The values of these fields, in this order. -/
def fields? (names : List String) : Value -> Option (List (Option Value))
  | .object members => do
    let members <- keyed? members
    if names.all fun name => decide (occurrences name members ≤ 1) then
      some (names.map fun name => members.lookup name)
    else none
  | .list items => if items.length = names.length then some (items.map some) else none
  | _ => none

/-- A field that may hold a text. -/
def textField? : Option Value -> Option (Option String)
  | none => some none
  | some .null => some none
  | some (.text pieces) => (Piece.text? pieces).map some
  | some _ => none

/-- A field that may hold a word. -/
def wordField? : Option Value -> Option (Option UInt32)
  | none => some none
  | some .null => some none
  | some (.natural n) => (Word.ofNat? n).map some
  | some _ => none

/-- The fields of a region, in the order of an array. -/
def regionFields : List String := ["filename", "size", "spiflash_src", "psram_dst"]

/-- The fields of a manifest, in the order of an array. -/
def manifestFields : List String :=
  ["name", "brief", "video", "tag", "hw_rev", "regions", "magic"]

/-- A region as it stands in a document. -/
def draftRegion? (value : Value) : Option DraftRegion := do
  match <- fields? regionFields value with
  | [filename, size, flashAddress, destination] => do
    let filename <- textField? filename
    let size <- wordField? size
    let flashAddress <- wordField? flashAddress
    let destination <- wordField? destination
    some ⟨filename, size, flashAddress, destination⟩
  | _ => none

/-- The regions as they stand in a document. -/
def regionsField? : Option Value -> Option (List DraftRegion)
  | none => some []
  | some (.list items) => items.mapM draftRegion?
  | some _ => none

/-- A manifest as it stands in a document. -/
def draft? (value : Value) : Option Draft := do
  match <- fields? manifestFields value with
  | [name, brief, video, tag, hardwareRevision, regions, magic] => do
    let name <- textField? name
    let brief <- textField? brief
    let video <- textField? video
    let tag <- textField? tag
    let hardwareRevision <- wordField? hardwareRevision
    let regions <- regionsField? regions
    let magic <- wordField? magic
    some ⟨name, brief, video, tag, hardwareRevision, regions, magic⟩
  | _ => none

/-- The region with this index, if nothing is missing. -/
def completeRegion (index : Nat) (draft : DraftRegion) : Except ManifestError Region :=
  match draft.filename, draft.size with
  | none, _ => .error (.noFilename index)
  | some filename, none => .error (.noSize index filename)
  | some filename, some size =>
    .ok ⟨filename, size, .ofDestination draft.destination, draft.flashAddress⟩

def completeRegions (index : Nat) : List DraftRegion -> Except ManifestError (List Region)
  | [] => .ok []
  | draft :: rest => do
    let region <- completeRegion index draft
    let regions <- completeRegions (index + 1) rest
    return region :: regions

/-- The manifest, if nothing is missing. -/
def complete (draft : Draft) : Except ManifestError Manifest :=
  match draft.name with
  | none => .error .noName
  | some name => do
    let regions <- completeRegions 0 draft.regions
    return ⟨name, draft.brief, draft.video, draft.tag, draft.hardwareRevision, draft.magic, regions⟩

/-- The manifest that these octets describe. -/
def parseOctets (document : List UInt8) : Except ManifestError Manifest :=
  match (Json.parse? document).bind draft? with
  | some draft => complete draft
  | none => .error .malformed

/-- The manifest that a document describes. -/
def parse (document : ByteArray) : Except ManifestError Manifest :=
  parseOctets document.data.toList

end Manifest
end FlashSlots
