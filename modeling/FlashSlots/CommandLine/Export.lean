import FlashSlots.CommandLine.Inputs

namespace FlashSlots
namespace CommandLine

/-!
# Exporting a plan

A plan can be written into a directory: each payload into a file of its own,
named for its address and its region, and the final manifest once more under a
fixed name.
-/

namespace Export

/-- The name of the file for a write.  A region whose name has no extension
gets one. -/
def payloadName (op : WriteOp) : String :=
  let name := Text.address op.address.toNat ++ "-" ++ op.region
  if Path.hasExtension op.region then name else name ++ ".bin"

/-- The files of a plan, in the order in which they are written. -/
def files (plan : WritePlan) : List (String × ByteArray) :=
  (plan.ops.map fun op => (payloadName op, op.payload)) ++
    [(Build.manifestFile, plan.manifest.toJson)]

/-- Write files into a directory, up to the first that cannot be written. -/
def writeFiles (directory : String) :
    List (String × ByteArray) -> FileTree -> Except AccessError Unit × FileTree
  | [], tree => (.ok (), tree)
  | (name, content) :: rest, tree =>
    match tree.write true (Path.join directory name) content with
    | .ok written => writeFiles directory rest written
    | .error cause => (.error cause, tree)

/-- Write a plan into a directory, which is made if it is missing. -/
def writePlan (directory : String) (plan : WritePlan) (tree : FileTree) :
    Except AccessError Unit × FileTree :=
  match tree.makeDirectories directory with
  | (.error cause, partly) => (.error cause, partly)
  | (.ok (), ready) => writeFiles directory (files plan) ready

/-- Describe the plan for what a command names, and write it into a directory
if there is one. -/
def run (inputs : Inputs) (output : Option String) (tree : FileTree) :
    Except CommandError String × FileTree :=
  match inputs.plan tree with
  | .error cause => (.error cause, tree)
  | .ok plan =>
    match output with
    | none => (.ok (describePlan plan), tree)
    | some directory =>
      match writePlan directory plan tree with
      | (.error cause, partly) => (.error (.access cause), partly)
      | (.ok (), written) =>
        (.ok (describePlan plan ++ "\nwritten to " ++ Text.quoted directory), written)

end Export
end CommandLine
end FlashSlots
