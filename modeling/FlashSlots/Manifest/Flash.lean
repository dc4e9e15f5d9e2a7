import FlashSlots.Manifest.Json

namespace FlashSlots
namespace Manifest

/-!
# Manifests in flash

Erased flash reads as `0xFF`.  So a manifest region holds a document and
erased octets behind it, and those are cut off before the document is read.
A region whose document is missing, unreadable or without the stamp is of no
use to the boot menu; `Unusable` says which.
-/

/-- Why a manifest region cannot be used. -/
inductive Unusable where
  /-- Every octet is erased. -/
  | blank
  /-- The manifest does not carry the stamp. -/
  | unstamped (name : String) (magic : Option UInt32)
  | unreadable (cause : ManifestError)
  deriving DecidableEq

namespace Unusable

/-- An optional number in messages. -/
def describeMagic : Option UInt32 -> String
  | none => "None"
  | some magic => "Some(" ++ toString magic.toNat ++ ")"

def message : Unusable -> String
  | blank => "Manifest region is all ones, ignoring."
  | unstamped name magic =>
    "Manifest '" ++ name ++ "' has magic " ++ describeMagic magic ++ ", ignoring"
  | unreadable cause => "Manifest: bad or nonexisting manifest: " ++ cause.message

end Unusable

/-- What is left without the erased octets at the end. -/
def trimErased (octets : List UInt8) : List UInt8 :=
  (octets.reverse.dropWhile (· == 0xFF)).reverse

/-- The manifest in a region of flash. -/
def readOctets (region : List UInt8) : Except Unusable Manifest :=
  match trimErased region with
  | [] => .error .blank
  | document =>
    match parseOctets document with
    | .error cause => .error (.unreadable cause)
    | .ok manifest =>
      if manifest.magic = some magicStamp then .ok manifest
      else .error (.unstamped manifest.name manifest.magic)

def readFlash (region : ByteArray) : Except Unusable Manifest :=
  readOctets region.data.toList

end Manifest
end FlashSlots
