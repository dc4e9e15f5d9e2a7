import FlashSlots.FileTree.Basic

namespace FlashSlots
namespace FileTree

/-!
# Reading and writing files

Reading and writing act on whole files.  A write that fails leaves the tree as
it was; making a directory with everything above it may stop half-way.
-/

/-- The octets of a file, with the bare cause if there are none. -/
def content (tree : FileTree) (path : String) : Except AccessCause ByteArray :=
  match tree.find path with
  | .error cause => .error cause
  | .ok (_, .directory) => .error (.system .isDirectory)
  | .ok (_, .file bytes) => .ok bytes

/-- The octets of a file. -/
def read (tree : FileTree) (path : String) : Except AccessError ByteArray :=
  (tree.content path).mapError (.read path)

def readText (tree : FileTree) (path : String) : Except AccessError String :=
  match tree.read path with
  | .error error => .error error
  | .ok bytes =>
    match String.fromUTF8? bytes with
    | some text => .ok text
    | none => .error (.read path .content)

/-- Where a write to a path goes.  Only with `create` it may go to a free
place. -/
def writable (tree : FileTree) (create : Bool) (path : String) : Except AccessCause Location :=
  match tree.follow path with
  | .error cause => .error cause
  | .ok (.existing location (.file _)) =>
    if Path.endsInSlash path then
      .error (.system (if create then .isDirectory else .notDirectory))
    else .ok location
  | .ok (.existing _ .directory) => .error (.system .isDirectory)
  | .ok (.free location) =>
    if create then
      if Path.endsInSlash path then .error (.system .isDirectory) else .ok location
    else .error (.system .notFound)

/-- Replace a whole file. -/
def write (tree : FileTree) (create : Bool) (path : String) (bytes : ByteArray) :
    Except AccessError FileTree :=
  match tree.writable create path with
  | .error cause => .error (.write path cause)
  | .ok location => .ok (tree.put location (.file bytes))

/-- Make a directory in an existing one. -/
def makeDirectory (tree : FileTree) (path : String) : Except AccessCause FileTree :=
  match tree.follow path with
  | .error cause => .error cause
  | .ok (.existing _ _) => .error (.system .alreadyExists)
  | .ok (.free location) => .ok (tree.put location .directory)

/-- Make a directory, or find that it is one already. -/
def ensureDirectory (tree : FileTree) (path : String) : Except AccessCause FileTree :=
  match tree.makeDirectory path with
  | .ok made => .ok made
  | .error cause => if tree.isDirectory path then .ok tree else .error cause

/-- Make a directory.  Those above it are made first if they are missing; they
are given with the nearest first. -/
def makeBelow (tree : FileTree) (path : String) :
    List String -> Except AccessCause Unit × FileTree
  | [] =>
    if path = "" then (.ok (), tree)
    else
      match tree.ensureDirectory path with
      | .ok made => (.ok (), made)
      | .error (.system .notFound) => (.error .content, tree)
      | .error cause => (.error cause, tree)
  | parent :: above =>
    match tree.ensureDirectory path with
    | .ok made => (.ok (), made)
    | .error (.system .notFound) =>
      match tree.makeBelow parent above with
      | (.error cause, partly) => (.error cause, partly)
      | (.ok (), ready) =>
        match ready.ensureDirectory path with
        | .ok made => (.ok (), made)
        | .error cause => (.error cause, ready)
    | .error cause => (.error cause, tree)

/-- Make a directory and everything above it. -/
def makeDirectories (tree : FileTree) (path : String) : Except AccessError Unit × FileTree :=
  match tree.makeBelow path (Path.parents path) with
  | (.ok (), made) => (.ok (), made)
  | (.error cause, partly) => (.error (.create path cause), partly)

end FileTree
end FlashSlots
