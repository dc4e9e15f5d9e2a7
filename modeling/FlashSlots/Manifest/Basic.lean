namespace FlashSlots

/-!
# Manifests

A manifest describes one slot: the name that the boot menu shows, and the
firmware regions that the bootloader has to set up before the bitstream
starts.  A region either executes in place from flash or is copied to PSRAM
first.  The packager stamps a manifest with a magic number, and a manifest
that is read back from flash counts only if it carries the stamp.
-/

/-- What the bootloader does with a region. -/
inductive RegionKind where
  /-- It is executed from flash. -/
  | executeInPlace
  /-- It is copied to this PSRAM address. -/
  | resident (destination : UInt32)
  deriving DecidableEq

namespace RegionKind

/-- The kind of a region in messages. -/
def describe : RegionKind -> String
  | executeInPlace => "execute-in-place"
  | resident _ => "PSRAM-resident"

/-- The PSRAM address, if there is one. -/
def destination? : RegionKind -> Option UInt32
  | executeInPlace => none
  | resident destination => some destination

/-- A region is PSRAM-resident exactly if it names a PSRAM address. -/
def ofDestination : Option UInt32 -> RegionKind
  | none => executeInPlace
  | some destination => resident destination

theorem ofDestination_destination? (kind : RegionKind) :
    ofDestination kind.destination? = kind := by
  cases kind <;> rfl

end RegionKind

/-- A firmware region.  Its flash address is authoritative only if the region
executes in place; the packager recomputes it for every other region. -/
structure Region where
  filename : String
  size : UInt32
  kind : RegionKind
  flashAddress : Option UInt32
  deriving DecidableEq

structure Manifest where
  name : String
  brief : Option String
  video : Option String
  tag : Option String
  hardwareRevision : Option UInt32
  magic : Option UInt32
  regions : List Region
  deriving DecidableEq

namespace Manifest

/-- The stamp of a packaged manifest. -/
def magicStamp : UInt32 := 0xFEEDBEEF

/-- The name of a slot without a manifest. -/
def unknownName : String := "<unknown>"

/-- The manifest with the stamp of the packager. -/
def stamp (manifest : Manifest) : Manifest := { manifest with magic := some magicStamp }

/-- Some region executes in place. -/
def hasExecuteInPlace (manifest : Manifest) : Bool :=
  manifest.regions.any fun region => region.kind == .executeInPlace

end Manifest

/-- Why a document is not a manifest. -/
inductive ManifestError where
  /-- It is not JSON, or JSON of another shape. -/
  | malformed
  | noName
  | noFilename (index : Nat)
  | noSize (index : Nat) (filename : String)
  deriving DecidableEq

namespace ManifestError

/-- The place and the name of a field that is missing. -/
def missing (location field : String) : String :=
  "ManifestError::MissingField: " ++ location ++ " is missing required field '" ++ field ++ "'"

/-- A region in messages. -/
def regionLocation (index : Nat) : String := "regions[" ++ toString index ++ "]"

def message : ManifestError -> String
  | malformed => "ManifestError::Malformed: manifest is not valid JSON"
  | noName => missing "manifest" "name"
  | noFilename index => missing (regionLocation index) "filename"
  | noSize index filename => missing (regionLocation index ++ " ('" ++ filename ++ "')") "size"

end ManifestError
end FlashSlots
