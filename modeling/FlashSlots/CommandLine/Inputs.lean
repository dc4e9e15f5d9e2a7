import FlashSlots.CommandLine.Error

namespace FlashSlots
namespace CommandLine

open Layout (SlotIndex Target)

/-!
# From files to a plan

A command names a slot and a build.  The build lies in one archive or in loose
files, and a build that executes in place may leave the choice of the slot to
its manifest.
-/

/-- The slot that a command names. -/
inductive TargetChoice where
  | unspecified
  | slot (number : Nat)
  | bootloader
  deriving DecidableEq

namespace TargetChoice

/-- The slot, which has to be named. -/
def target : TargetChoice -> Except CommandError Target
  | unspecified => .error .noSlot
  | slot number =>
    match SlotIndex.ofNat? number with
    | some index => .ok (.user index)
    | none => .error (.noSuchSlot number)
  | bootloader => .ok .bootloader

/-- The slot for a build. -/
def targetFor (choice : TargetChoice) (build : Build) : Except CommandError Target :=
  match choice with
  | unspecified =>
    match build.defaultTarget? with
    | some target => .ok target
    | none => .error (.slotRequired build.manifest.name)
  | choice => choice.target

end TargetChoice

/-- Where a build lies. -/
inductive BuildSource where
  | loose (bitstream manifest : String) (firmware : List String)
  | archive (path : String)
  deriving DecidableEq

namespace BuildSource

def readArtifact (tree : FileTree) (path : String) : Except CommandError Artifact :=
  match Path.fileName? path with
  | none => .error (.noFileName path)
  | some name =>
    match tree.read path with
    | .ok bytes => .ok ⟨name, bytes⟩
    | .error cause => .error (.access cause)

/-- The build in loose files.  The manifest is read before the others. -/
def readLoose (tree : FileTree) (bitstream manifest : String) (firmware : List String) :
    Except CommandError Build := do
  let text <- (tree.read manifest).mapError .access
  let manifest <- (Manifest.parse text).mapError .manifest
  let bitstream <- (tree.read bitstream).mapError .access
  let firmware <- firmware.mapM (readArtifact tree)
  return ⟨bitstream, firmware, manifest⟩

def read (tree : FileTree) : BuildSource -> Except CommandError Build
  | loose bitstream manifest firmware => readLoose tree bitstream manifest firmware
  | archive path => (Build.readArchive tree path).mapError .archive

end BuildSource

/-- A slot and a build. -/
structure Inputs where
  choice : TargetChoice
  source : BuildSource
  deriving DecidableEq

/-- The plan for what a command names. -/
def Inputs.plan (inputs : Inputs) (tree : FileTree) : Except CommandError WritePlan := do
  let build <- inputs.source.read tree
  let target <- inputs.choice.targetFor build
  (FlashSlots.package target build).mapError .package

/-- A plan, with a line for each write. -/
def describePlan (plan : WritePlan) : String :=
  "\n".intercalate
    (("'" ++ plan.manifest.name ++ "' for " ++ plan.target.describe ++ ": " ++
        toString plan.ops.length ++ " write(s)") ::
      plan.ops.map fun op => "  " ++ op.describe)

end CommandLine
end FlashSlots
