import FlashSlots.Compression.Writers
import FlashSlots.FileTree.Access
import FlashSlots.Trigger

namespace FlashSlots

/-!
# Boot stubs

A boot stub is a tiny bitstream that makes the board boot from another slot.
There is one for each trigger.  Stubs are kept compressed and are only
decompressed when they are needed; a damaged one is noticed then.
-/

/-- Why there is no stub for a trigger. -/
inductive StubError where
  | missing (trigger : Trigger)
  | corrupt (trigger : Trigger)
  deriving DecidableEq

namespace StubError

def message : StubError -> String
  | missing trigger => "BitslotError::Argument: no BootStub vector for " ++ trigger.token
  | corrupt trigger =>
    "BitslotError::Internal: An Internal error occurred: BootStub vector for " ++
      trigger.token ++ " is corrupt"

end StubError

/-- The compressed stubs, one for a trigger at most. -/
structure StubTable where
  entries : List (Trigger × ByteArray)

namespace StubTable

/-- The greatest length of a stub. -/
def maxVectorSize : Nat := 4194304

/-- Stubs are made as short as possible. -/
def compressionLevel : UInt8 := 9

/-- Compress a stub. -/
def compress [Compression.Writers] (bitstream : ByteArray) : ByteArray :=
  Compression.Writers.deflate compressionLevel bitstream

def empty : StubTable := ⟨[]⟩

/-- The table with this compressed stub.  One for the same trigger gives way. -/
def insert (table : StubTable) (trigger : Trigger) (compressed : ByteArray) : StubTable :=
  ⟨(trigger, compressed) :: table.entries.filter fun entry => entry.1 != trigger⟩

def size (table : StubTable) : Nat := table.entries.length

def vector (table : StubTable) (trigger : Trigger) : Except StubError ByteArray :=
  match table.entries.lookup trigger with
  | none => .error (.missing trigger)
  | some compressed =>
    match Compression.Zlib.decompress? maxVectorSize compressed with
    | some bitstream => .ok bitstream
    | none => .error (.corrupt trigger)

def loadEntry (tree : FileTree) (directory : String) (table : StubTable) (trigger : Trigger) :
    Except AccessError StubTable :=
  let path := Path.join directory trigger.stubFileName
  if tree.isFile path then
    match tree.read path with
    | .ok compressed => .ok (table.insert trigger compressed)
    | .error cause => .error cause
  else .ok table

def loadDirectory (tree : FileTree) (directory : String) : Except AccessError StubTable :=
  Trigger.all.foldlM (loadEntry tree directory) empty

end StubTable
end FlashSlots
