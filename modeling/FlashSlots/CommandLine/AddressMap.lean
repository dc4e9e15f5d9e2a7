import FlashSlots.Layout
import FlashSlots.Text.Hex

namespace FlashSlots
namespace CommandLine

open Layout (Target)

/-!
# The address map

The map has a row for each slot and one for the end of the chip that no slot
uses.
-/

namespace AddressMap

/-- A text with blanks behind it, up to a width. -/
def flushLeft (width : Nat) (text : String) : String :=
  text ++ String.ofList (List.replicate (width - text.length) ' ')

/-- A text with blanks in front of it, up to a width. -/
def flushRight (width : Nat) (text : String) : String :=
  String.ofList (List.replicate (width - text.length) ' ') ++ text

def row (title : String) (columns : List String) : String :=
  " ".intercalate (flushLeft 16 title :: columns.map (flushRight 10))

/-- The address of the first region, where it is fixed. -/
def firmwareColumn : Target -> String
  | .bootloader => "-"
  | .user slot => Text.address (Layout.firmwareBase slot).toNat

def slotRow (target : Target) : String :=
  row target.describe
    [Text.address target.bitstreamAddress.toNat, firmwareColumn target,
      Text.address target.manifestAddress.toNat, Text.address target.stop.toNat]

/-- Where the last slot stops. -/
def lastStop : Nat := (Target.all.map fun target => target.stop.toNat).foldl max 0

/-- The row for the rest of the chip. -/
def unusedRows : List String :=
  if lastStop < Layout.flashSize then
    [row "unused" [Text.address lastStop, "-", "-", Text.address Layout.flashSize]]
  else []

def text : String :=
  "\n".intercalate
    (row "slot" ["bitstream", "firmware", "manifest", "end"] :: Target.all.map slotRow ++
      unusedRows)

end AddressMap
end CommandLine
end FlashSlots
