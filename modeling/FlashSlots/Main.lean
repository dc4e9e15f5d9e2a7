import FlashSlots.CommandLine.Program
import FlashSlots.Compression.Stored

/-!
# The executable

The program works on trees of files.  Here the files that a command line
concerns are read into a tree, and what the program changes in it is written
back.

Nothing here can start a process, so that only the image programmer opens, and
stub files are stored.
-/

namespace FlashSlots
namespace Executable

open CommandLine

def pathOf (location : Location) : String := "/" ++ "/".intercalate location

/-- The names in a directory. -/
def namesIn (path : String) : IO (List String) := do
  let entries <- ((<- IO.currentDir) / path).readDir
  return entries.toList.map (·.fileName)

/-- What stands at a path. -/
def probe (path : String) : IO (Option Node) := do
  try
    return some (.file (<- IO.FS.readBinFile path))
  catch _ =>
    try
      let _ <- namesIn path
      return some .directory
    catch _ => return none

/-- Read what stands at a path into the tree. -/
def load (tree : FileTree) (path : String) : IO FileTree := do
  match tree.follow path with
  | .ok (.free location) =>
    match <- probe (pathOf location) with
    | some node => return tree.put location node
    | none => return tree
  | _ => return tree

/-- Read what stands at a path and on the way to it. -/
def loadWay (tree : FileTree) (path : String) : IO FileTree := do
  let ways := ((Path.parents path).filter (· != "")).reverse
  let tree <- ways.foldlM load tree
  load tree path

/-- Read a directory and what stands in it. -/
def loadDirectory (tree : FileTree) (path : String) : IO FileTree := do
  let tree <- loadWay tree path
  if tree.isDirectory path then
    (<- namesIn path).foldlM (fun tree name => load tree (Path.join path name)) tree
  else return tree

/-- The files that a build lies in. -/
def sourcePaths : BuildSource -> List String
  | .loose bitstream manifest firmware => bitstream :: manifest :: firmware
  | .archive path => [path]

/-- Read everything that an invocation concerns. -/
def loadFor (invocation : Invocation) (tree : FileTree) : IO FileTree := do
  let tree <- (Program.usualSettings ++ invocation.settings.toList).foldlM loadWay tree
  match invocation.command with
  | .layout => return tree
  | .stub _ input output => [input, output].foldlM loadWay tree
  | .package inputs output =>
    let tree <- (sourcePaths inputs.source).foldlM loadWay tree
    output.toList.foldlM loadDirectory tree
  | .flash inputs options =>
    let settings := options.apply (Program.settings tree invocation.settings)
    (sourcePaths inputs.source ++ settings.imagePath.toList).foldlM loadWay tree

/-- Write what is new or has changed. -/
def save (before after : FileTree) : IO Unit := do
  for (location, node) in after.nodes do
    if before.node? location != some node then
      match node with
      | .directory => IO.FS.createDirAll (pathOf location)
      | .file content => IO.FS.writeBinFile (pathOf location) content

/-- No program is found. -/
def noLauncher : Flash.Launcher := fun _ _ _ => .error (.system .notFound)

def run (invocation : Invocation) : IO UInt32 := do
  let home := Path.names (toString (<- IO.currentDir))
  let before <- loadFor invocation (.empty home)
  let stations := Flash.Backend.station noLauncher
  let output <- IO.getStdout
  let stage := Program.start stations invocation before
  let (printed, answer) <-
    match stage with
    | .ended _ => pure ("", ByteArray.empty)
    | .asking text _ _ => do
      output.putStr text
      output.flush
      pure (text, <- (<- IO.getStdin).read 4096)
  let ended := Program.finish stations answer stage
  save before ended.tree
  output.putStr (String.ofList (ended.output.toList.drop printed.length))
  match ended.result with
  | .ok _ => pure ()
  | .error cause => IO.eprintln cause.message
  return UInt32.ofNat ended.status

/-- How the program is called. -/
def usage : String :=
  "Usage: [--config <FILE>] <package|flash|stub|layout> [OPTIONS]"

end Executable
end FlashSlots

open FlashSlots in
def main (arguments : List String) : IO UInt32 := do
  match CommandLine.Invocation.parse? arguments with
  | some invocation => Executable.run invocation
  | none =>
    IO.eprintln Executable.usage
    return UInt32.ofNat CommandLine.usageStatus
