import FlashSlots.FileTree.Path
import FlashSlots.Octets
import FlashSlots.Text.Quoted

namespace FlashSlots

/-!
# Trees of files

A tree holds directories and files, each at a location.  A path that is not
absolute starts at the home location.

Following a path either reaches something that exists, or a free place in an
existing directory, or it fails for one of the reasons that a system gives.
-/

/-- Why a system refuses an access. -/
inductive SystemError where
  | notFound
  | accessDenied
  | alreadyExists
  | notDirectory
  | isDirectory
  | nameTooLong
  deriving DecidableEq

namespace SystemError

/-- The number of the error. -/
def code : SystemError -> Nat
  | notFound => 2
  | accessDenied => 13
  | alreadyExists => 17
  | notDirectory => 20
  | isDirectory => 21
  | nameTooLong => 36

def text : SystemError -> String
  | notFound => "No such file or directory"
  | accessDenied => "Permission denied"
  | alreadyExists => "File exists"
  | notDirectory => "Not a directory"
  | isDirectory => "Is a directory"
  | nameTooLong => "File name too long"

def describe (error : SystemError) : String :=
  error.text ++ " (os error " ++ toString error.code ++ ")"

end SystemError

/-- Why an access failed. -/
inductive AccessCause where
  | system (error : SystemError)
  /-- The name or the content is not what the access needs. -/
  | content
  deriving DecidableEq

/-- An access that failed, with its path. -/
inductive AccessError where
  | read (path : String) (cause : AccessCause)
  | write (path : String) (cause : AccessCause)
  | create (path : String) (cause : AccessCause)
  deriving DecidableEq

namespace AccessError

/-- The end of a message.  Only the causes of the system have a text. -/
def causeText : AccessCause -> String
  | .system error => ": " ++ error.describe
  | .content => ""

def message : AccessError -> String
  | read path cause =>
    "BitslotError::IORead: An IO error occurred when reading from " ++ Text.quoted path ++
      causeText cause
  | write path cause =>
    "BitslotError::IOWrite: An IO error occurred when writing to " ++ Text.quoted path ++
      causeText cause
  | create path cause =>
    "BitslotError::IOCreate: An IO error occurred when creating " ++ Text.quoted path ++
      causeText cause

end AccessError

/-- What stands at a location. -/
inductive Node where
  | directory
  | file (bytes : ByteArray)
  deriving DecidableEq

/-- The names on the way from the root. -/
abbrev Location := List String

structure FileTree where
  /-- Where relative paths start. -/
  home : Location
  /-- What stands where.  Home and the directories on the way to it exist
  without being listed. -/
  nodes : List (Location × Node)

namespace FileTree

/-- A tree with an empty home directory. -/
def empty (home : Location) : FileTree := ⟨home, []⟩

/-- What stands at a location. -/
def node? (tree : FileTree) (location : Location) : Option Node :=
  if location.isPrefixOf tree.home then some .directory else tree.nodes.lookup location

/-- Replace what is listed for a location. -/
def replace (location : Location) (node : Node) :
    List (Location × Node) -> List (Location × Node)
  | [] => [(location, node)]
  | (other, found) :: rest =>
    if other = location then (other, node) :: rest
    else (other, found) :: replace location node rest

/-- The tree with nothing listed for a location. -/
def clear (tree : FileTree) (location : Location) : FileTree :=
  { tree with nodes := tree.nodes.filter fun entry => entry.1 != location }

/-- The tree with something at a location. -/
def put (tree : FileTree) (location : Location) (node : Node) : FileTree :=
  { tree with nodes := replace location node tree.nodes }

/-- Names longer than this do not exist. -/
def maxNameLength : Nat := 255

/-- A whole path has to be shorter than this. -/
def maxPathLength : Nat := 4096

/-- Where one step down from a directory leads. -/
inductive Step where
  | existing (location : Location) (node : Node)
  | free (location : Location)
  deriving DecidableEq

/-- Follow one name from a directory. -/
def step (tree : FileTree) (directory : Location) (name : String) : Except SystemError Step :=
  if name = "." then .ok (.existing directory .directory)
  else if name = ".." then .ok (.existing directory.dropLast .directory)
  else if maxNameLength < name.utf8ByteSize then .error .nameTooLong
  else
    match tree.node? (directory ++ [name]) with
    | some node => .ok (.existing (directory ++ [name]) node)
    | none => .ok (.free (directory ++ [name]))

/-- Follow names from a directory. -/
def walk (tree : FileTree) (directory : Location) : List String -> Except SystemError Step
  | [] => .ok (.existing directory .directory)
  | [name] => tree.step directory name
  | name :: rest =>
    match tree.step directory name with
    | .error error => .error error
    | .ok (.free _) => .error .notFound
    | .ok (.existing _ (.file _)) => .error .notDirectory
    | .ok (.existing location .directory) => tree.walk location rest

/-- Where a path leads. -/
def follow (tree : FileTree) (path : String) : Except AccessCause Step :=
  if path.toList.contains '\x00' then .error .content
  else if path = "" then .error (.system .notFound)
  else if maxPathLength ≤ path.utf8ByteSize then .error (.system .nameTooLong)
  else
    (tree.walk (if Path.isAbsolute path then [] else tree.home) (Path.names path)).mapError .system

/-- Where a path leads, if something is there.  A slash at the end asks for a
directory. -/
def find (tree : FileTree) (path : String) : Except AccessCause (Location × Node) :=
  match tree.follow path with
  | .error cause => .error cause
  | .ok (.free _) => .error (.system .notFound)
  | .ok (.existing location (.file bytes)) =>
    if Path.endsInSlash path then .error (.system .notDirectory)
    else .ok (location, .file bytes)
  | .ok (.existing location .directory) => .ok (location, .directory)

def fileExists (tree : FileTree) (path : String) : Bool := (tree.find path).isOk

def isFile (tree : FileTree) (path : String) : Bool :=
  match tree.find path with
  | .ok (_, .file _) => true
  | _ => false

def isDirectory (tree : FileTree) (path : String) : Bool :=
  match tree.find path with
  | .ok (_, .directory) => true
  | _ => false

end FileTree
end FlashSlots
