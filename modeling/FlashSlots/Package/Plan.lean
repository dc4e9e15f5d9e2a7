import FlashSlots.Package.Build
import FlashSlots.Package.WriteOp

namespace FlashSlots

open Layout (Span Target)

/-!
# Write plans

Packaging turns a build into an ordered list of writes for one slot.

* The bitstream goes first, at the base of the slot.
* In the bootloader slot firmware executes in place, so that each region goes
  to the flash address it was linked for.
* In a user slot the regions are packed one after the other from the firmware
  base, each from a page boundary on.  The address that results replaces the
  one of the template.
* The stamped manifest goes last, into the final page of the slot.

Every write has to stay inside its slot, and no two writes may touch the same
page.  The cursor that packs the regions is a 32-bit word; a build that moves
it out of range has no plan, and `PackageError.overflow` records that.
-/

/-- Why a build does not fit its slot. -/
inductive ValidationError where
  /-- The slot does not take regions of this kind. -/
  | wrongRegionKind (region : String) (kind : RegionKind) (target : Target)
  | missingArtifact (filename : String)
  | sizeMismatch (region : String) (declared : UInt32) (actual : Nat)
  /-- A region that executes in place has no flash address. -/
  | missingFlashAddress (region : String)
  | manifestTooLarge (size : Nat)
  /-- A write leaves the slot. -/
  | slotBoundaryExceeded (region : String) (range : Span) (target : Target)
  /-- Two writes share a page. -/
  | overlap (first : String) (firstPages : Span) (second : String) (secondPages : Span)
  deriving DecidableEq

/-- Why a build has no plan. -/
inductive PackageError where
  | invalid (cause : ValidationError)
  /-- An address left the 32-bit range. -/
  | overflow
  deriving DecidableEq

/-- Ordered writes for one slot, with the manifest as it goes to flash. -/
structure WritePlan where
  target : Target
  manifest : Manifest
  ops : List WriteOp
  deriving DecidableEq

namespace ValidationError

/-- A range of addresses in messages. -/
def describeSpan (span : Span) : String :=
  "[" ++ Text.address span.start.toNat ++ ", " ++ Text.address span.stop.toNat ++ ")"

def message : ValidationError -> String
  | wrongRegionKind region kind target =>
    "ValidationError::WrongRegionKindForSlot: region '" ++ region ++ "' is " ++ kind.describe ++
      ", which " ++ target.describe ++ " does not accept"
  | missingArtifact filename =>
    "ValidationError::MissingArtifact: no firmware artifact provided for region '" ++
      filename ++ "'"
  | sizeMismatch region declared actual =>
    "ValidationError::SizeMismatch: region '" ++ region ++ "' declares " ++
      toString declared.toNat ++ " bytes but the artifact is " ++ toString actual ++ " bytes"
  | missingFlashAddress region =>
    "ValidationError::MissingFlashAddress: execute-in-place region '" ++ region ++
      "' has no 'spiflash_src'"
  | manifestTooLarge size =>
    "ValidationError::ManifestTooLarge: serialized manifest is " ++ toString size ++
      " bytes, the manifest region holds " ++ toString Layout.manifestSize
  | slotBoundaryExceeded region range target =>
    "ValidationError::SlotBoundaryExceeded: '" ++ region ++ "' " ++ describeSpan range ++
      " does not fit in " ++ target.describe ++ " " ++ describeSpan ⟨target.base, target.stop⟩
  | overlap first firstPages second secondPages =>
    "ValidationError::Overlap: '" ++ first ++ "' " ++ describeSpan firstPages ++ " overlaps '" ++
      second ++ "' " ++ describeSpan secondPages

end ValidationError

namespace Package

/-- The slot takes regions of this kind. -/
def accepts : Target -> RegionKind -> Bool
  | .bootloader, .executeInPlace => true
  | .bootloader, .resident _ => false
  | .user _, .executeInPlace => false
  | .user _, .resident _ => true

/-- The slot takes every region. -/
def checkRegionKinds (target : Target) (regions : List Region) : Except ValidationError Unit :=
  match regions.find? fun region => !accepts target region.kind with
  | some region => .error (.wrongRegionKind region.filename region.kind target)
  | none => .ok ()

/-- Where the next packed region goes; nowhere in the bootloader slot. -/
def firstCursor : Target -> Option UInt32
  | .bootloader => none
  | .user slot => some (Layout.firmwareBase slot)

/-- The address of a region, and where the next packed region goes. -/
def assign (target : Target) (region : Region) :
    Option UInt32 -> Except PackageError (UInt32 × Option UInt32)
  | none =>
    match region.flashAddress with
    | some address => .ok (address, none)
    | none => .error (.invalid (.missingFlashAddress region.filename))
  | some next =>
    match Word.add? next region.size with
    | none => .error (.invalid (.slotBoundaryExceeded region.filename ⟨next, Word.greatest⟩ target))
    | some stop =>
      match Layout.alignUp? stop with
      | none => .error .overflow
      | some cursor => .ok (next, some cursor)

/-- The artifact of a region, if it has the declared size. -/
def choose (firmware : List Artifact) (region : Region) : Except PackageError Artifact :=
  match Build.artifact? firmware region.filename with
  | none => .error (.invalid (.missingArtifact region.filename))
  | some artifact =>
    if artifact.bytes.size = region.size.toNat then .ok artifact
    else .error (.invalid (.sizeMismatch region.filename region.size artifact.bytes.size))

/-- The regions with their addresses, and a write for each. -/
def placeRegions (target : Target) (firmware : List Artifact) :
    Option UInt32 -> List Region -> Except PackageError (List Region × List WriteOp)
  | _, [] => .ok ([], [])
  | cursor, region :: rest => do
    let artifact <- choose firmware region
    let (address, next) <- assign target region cursor
    let (regions, ops) <- placeRegions target firmware next rest
    return ({ region with flashAddress := some address } :: regions,
      ⟨region.filename, .raw, address, artifact.bytes⟩ :: ops)

/-- The regions of a build in its slot. -/
def placeFirmware (target : Target) (build : Build) :
    Except PackageError (List Region × List WriteOp) :=
  match checkRegionKinds target build.manifest.regions with
  | .error cause => .error (.invalid cause)
  | .ok () => placeRegions target build.firmware (firstCursor target) build.manifest.regions

def bitstreamOp (target : Target) (bitstream : ByteArray) : WriteOp :=
  ⟨"bitstream", .bit, target.bitstreamAddress, bitstream⟩

def manifestOp (target : Target) (manifest : Manifest) : WriteOp :=
  ⟨"manifest", .raw, target.manifestAddress, manifest.toJson⟩

/-- Every page of the write lies in the slot. -/
def fitsSlot (target : Target) (op : WriteOp) : Bool :=
  match op.pageSpan? with
  | some span => target.contains span
  | none => false

/-- Every write stays inside the slot. -/
def checkSlotBounds (target : Target) (ops : List WriteOp) : Except ValidationError Unit :=
  match ops.find? fun op => !fitsSlot target op with
  | some op =>
    .error (.slotBoundaryExceeded op.region (op.range?.getD ⟨op.address, Word.greatest⟩) target)
  | none => .ok ()

/-- The writes with their pages. -/
def withPages (ops : List WriteOp) : List (WriteOp × Span) :=
  ops.filterMap fun op => op.pageSpan?.map (op, ·)

/-- The first pair of writes whose pages cross. -/
def firstOverlap? :
    List (WriteOp × Span) -> Option ((WriteOp × Span) × (WriteOp × Span))
  | [] => none
  | first :: rest =>
    match rest.find? fun second => first.2.crosses second.2 with
    | some second => some (first, second)
    | none => firstOverlap? rest

/-- No two writes share a page. -/
def checkOverlaps (ops : List WriteOp) : Except ValidationError Unit :=
  match firstOverlap? (withPages ops) with
  | some (first, second) =>
    .error (.overlap first.1.region first.2 second.1.region second.2)
  | none => .ok ()

/-- The plan with these regions and firmware writes, if it is valid. -/
def assemble (target : Target) (build : Build) (regions : List Region) (ops : List WriteOp) :
    Except ValidationError WritePlan := do
  let manifest := { build.manifest with regions := regions }.stamp
  if !manifest.fits then
    throw (.manifestTooLarge manifest.toJson.size)
  let ops := bitstreamOp target build.bitstream :: (ops ++ [manifestOp target manifest])
  checkSlotBounds target ops
  checkOverlaps ops
  return ⟨target, manifest, ops⟩

end Package

/-- The write plan of a build for a slot. -/
def package (target : Target) (build : Build) : Except PackageError WritePlan :=
  match Package.placeFirmware target build with
  | .error cause => .error cause
  | .ok (regions, ops) =>
    match Package.assemble target build regions ops with
    | .error cause => .error (.invalid cause)
    | .ok plan => .ok plan

namespace Package

/-- The artifacts that no region names.  They are only looked for once every
region has its place. -/
def ignoredArtifacts (target : Target) (build : Build) : List Artifact :=
  match placeFirmware target build with
  | .error _ => []
  | .ok _ => build.firmware.filter fun artifact =>
      !build.manifest.regions.any fun region => region.filename == artifact.filename

/-- The warning about an artifact that no region names. -/
def ignoredMessage (artifact : Artifact) : String :=
  "Artifact '" ++ artifact.filename ++ "' is not referenced by the manifest, ignoring"

/-- The warnings that packaging gives. -/
def warnings (target : Target) (build : Build) : List String :=
  (ignoredArtifacts target build).map ignoredMessage

end Package
end FlashSlots
