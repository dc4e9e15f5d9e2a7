import FlashSlots.Manifest.Basic
import FlashSlots.Text.Hex

namespace FlashSlots
namespace Manifest

/-!
# Listing a manifest

The listing shows a manifest to the user, one field a line, between braces.
Fields without a value are left out, but the flash address of a region is
always shown.
-/

def fieldLine (label : String) (value : Option String) : List String :=
  (value.map (label ++ ·)).toList

/-- A text between quotes. -/
def quoted (text : String) : String := "'" ++ text ++ "'"

def regionLines (index : Nat) (region : Region) : List String :=
  ["\tregion[" ++ toString index ++ "] = \x7b",
    "\t\tfilename:     " ++ quoted region.filename,
    "\t\tspiflash_src: " ++ (match region.flashAddress with
      | some address => Text.hex address.toNat
      | none => "None")] ++
  fieldLine "\t\tpsram_dst:    "
    (region.kind.destination?.map fun address => Text.hex address.toNat ++ " (copyto)") ++
  ["\t\tsize:         " ++ Text.hex region.size.toNat, "\t\x7d"]

/-- The lines of a manifest. -/
def listing (manifest : Manifest) : List String :=
  ["Manifest \x7b", "\tname:    " ++ quoted manifest.name] ++
  fieldLine "\tbrief:   " (manifest.brief.map quoted) ++
  fieldLine "\tvideo:   " (manifest.video.map quoted) ++
  fieldLine "\ttag:     " (manifest.tag.map quoted) ++
  fieldLine "\thw_rev:  " (manifest.hardwareRevision.map fun n => toString n.toNat) ++
  fieldLine "\tmagic:   " (manifest.magic.map fun n => Text.hex n.toNat) ++
  (manifest.regions.zipIdx.flatMap fun (region, index) => regionLines index region) ++
  ["\x7d"]

end Manifest
end FlashSlots
