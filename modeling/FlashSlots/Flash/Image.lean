import FlashSlots.FileTree.Access
import FlashSlots.Layout
import FlashSlots.Octets

namespace FlashSlots
namespace Flash

/-!
# Chip images

An image holds every octet of the chip.  Programming erases the pages that a
payload touches and writes the payload into them, as the chip does: a page
that is touched loses whatever else it held.  Programming past the end of the
chip is refused as a whole.
-/

/-- What an erased octet reads as. -/
def erasedByte : UInt8 := 0xFF

structure Image where
  bytes : ByteArray
  size_eq : bytes.size = Layout.flashSize

namespace Image

instance : DecidableEq Image := fun first second =>
  if same : first.bytes = second.bytes then
    .isTrue (by cases first; cases second; simp_all)
  else .isFalse (fun equal => same (equal ▸ rfl))

/-- A chip with nothing on it. -/
def erased : Image := ⟨Octets.fill erasedByte Layout.flashSize, Octets.size_fill _ _⟩

/-- The image of these octets, if there are as many as on a chip. -/
def ofBytes? (bytes : ByteArray) : Option Image :=
  if whole : bytes.size = Layout.flashSize then some ⟨bytes, whole⟩ else none

/-- The octet at an address of the chip. -/
def get (image : Image) (address : Nat) (inside : address < Layout.flashSize) : UInt8 :=
  image.bytes.get address (image.size_eq ▸ inside)

/-- The octets from an address on.  Behind the end everything reads as erased. -/
def read (image : Image) (address length : Nat) : ByteArray :=
  let found := image.bytes.extract address (address + length)
  found ++ Octets.fill erasedByte (length - found.size)

theorem size_read (image : Image) (address length : Nat) :
    (image.read address length).size = length := by
  simp only [read, ByteArray.size_append, Octets.size_fill, ByteArray.size_extract]
  omega

/-- The start of the page that holds an address. -/
def pageStart (address : Nat) : Nat := address / Layout.pageSize * Layout.pageSize

/-- The first page boundary at or behind an address. -/
def pageStop (address : Nat) : Nat := pageStart (address + (Layout.pageSize - 1))

theorem pageStart_le (address : Nat) : pageStart address ≤ address :=
  Nat.div_mul_le_self address Layout.pageSize

theorem pageStop_le_flashSize {address : Nat} (inside : address ≤ Layout.flashSize) :
    pageStop address ≤ Layout.flashSize := by
  simp only [pageStop, pageStart, Layout.pageSize, Layout.flashSize] at inside ⊢
  omega

theorem le_pageStop (address : Nat) : address ≤ pageStop address := by
  simp only [pageStop, pageStart, Layout.pageSize]
  omega

/-- A write that runs past the end of the chip. -/
structure PastEnd where
  offset : UInt32
  size : Nat
  deriving DecidableEq

def PastEnd.message (error : PastEnd) : String :=
  toString error.size ++ " bytes at " ++ Text.address error.offset.toNat ++
    " run past the end of flash"

/-- The octets with the pages from one boundary to another erased. -/
def eraseRange (bytes : ByteArray) (first last : Nat) : ByteArray :=
  Octets.overwrite bytes first (Octets.fill erasedByte (last - first))

theorem size_eraseRange (bytes : ByteArray) {first last : Nat} (ordered : first ≤ last)
    (inside : last ≤ bytes.size) : (eraseRange bytes first last).size = bytes.size := by
  unfold eraseRange
  apply Octets.size_overwrite
  rw [Octets.size_fill]
  omega

/-- Erase the pages that a payload touches, then write it. -/
def program (image : Image) (offset : UInt32) (payload : ByteArray) : Except PastEnd Image :=
  if inside : offset.toNat + payload.size ≤ Layout.flashSize then
    .ok {
      bytes := Octets.overwrite
        (eraseRange image.bytes (pageStart offset.toNat) (pageStop (offset.toNat + payload.size)))
        offset.toNat payload
      size_eq := by
        have first := pageStart_le offset.toNat
        have last := le_pageStop (offset.toNat + payload.size)
        have whole := pageStop_le_flashSize inside
        have erased := size_eraseRange image.bytes (Nat.le_trans first
          (Nat.le_trans (Nat.le_add_right _ _) last)) (image.size_eq ▸ whole)
        rw [Octets.size_overwrite (by rw [erased, image.size_eq]; exact inside), erased,
          image.size_eq] }
  else .error ⟨offset, payload.size⟩

/-- How many octets are not erased. -/
def usedBytes (image : Image) : Nat :=
  image.bytes.foldl (fun count byte => if byte = erasedByte then count else count + 1) 0

/-- The text of an image in messages. -/
def describe (image : Image) : String :=
  "FlashImage \x7b " ++ toString image.usedBytes ++ " non-erased bytes \x7d"

/-- Why an image could not be loaded. -/
inductive LoadError where
  | access (cause : AccessError)
  | wrongSize (path : String) (size : Nat)
  deriving DecidableEq

def LoadError.message : LoadError -> String
  | access cause => cause.message
  | wrongSize path size =>
    "BitslotError::Argument: " ++ Text.quoted path ++ " is " ++ toString size ++
      " bytes, a flash image is " ++ toString Layout.flashSize

/-- The image that a file holds. -/
def load (tree : FileTree) (path : String) : Except LoadError Image :=
  match tree.read path with
  | .error cause => .error (.access cause)
  | .ok bytes =>
    match ofBytes? bytes with
    | some image => .ok image
    | none => .error (.wrongSize path bytes.size)

/-- The image that a file holds, or an erased chip if there is no file. -/
def loadOrErased (tree : FileTree) (path : String) : Except LoadError Image :=
  if tree.fileExists path then load tree path else .ok erased

/-- Write the image to a file. -/
def save (image : Image) (tree : FileTree) (path : String) : Except AccessError FileTree :=
  tree.write true path image.bytes

end Image
end Flash
end FlashSlots
