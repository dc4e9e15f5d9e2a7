namespace FlashSlots
namespace Path

/-!
# Paths

A path is a text in which slashes separate names.  It is absolute if it starts
with a slash.  Empty names and `.` name nothing, and `..` goes up.

A path is taken apart as text, whatever the tree holds.
-/

/-- The pieces of a text between separators. -/
def split (separator : Char) : List Char -> List (List Char)
  | [] => [[]]
  | char :: rest =>
    if char = separator then [] :: split separator rest
    else
      match split separator rest with
      | [] => [[char]]
      | piece :: more => (char :: piece) :: more

/-- The pieces of a path between its slashes. -/
def pieces (path : String) : List String := (split '/' path.toList).map String.ofList

def isAbsolute (path : String) : Bool := path.toList.head? == some '/'

/-- The path asks for a directory. -/
def endsInSlash (path : String) : Bool := path.toList.getLast? == some '/'

/-- The pieces that name a step. -/
def names (path : String) : List String := (pieces path).filter (· != "")

/-- The last name of a path, unless the path stands for a directory above. -/
def fileName? (path : String) : Option String :=
  match ((names path).filter (· != ".")).getLast? with
  | some name => if name = ".." then none else some name
  | none => none

/-- A name has an extension if a dot follows its first character. -/
def nameHasExtension (name : String) : Bool :=
  match name.toList with
  | [] => false
  | _ :: rest => rest.contains '.'

/-- The last name of the path has an extension. -/
def hasExtension (path : String) : Bool :=
  match fileName? path with
  | some name => nameHasExtension name
  | none => false

/-- The path of a file in a directory. -/
def join (directory name : String) : String :=
  if isAbsolute name || directory.isEmpty then name
  else if endsInSlash directory then directory ++ name
  else directory ++ "/" ++ name

/-- A piece that does not lead anywhere. -/
def isIdle (piece : String) : Bool := piece == "" || piece == "."

/-- The path of these pieces and the paths above it.  The first piece is given
apart, the others in reverse. -/
def above (first : String) : List String -> List String
  | [] => if first = "" then ["/"] else [first, ""]
  | piece :: rest =>
    if isIdle piece then above first rest
    else "/".intercalate (first :: (piece :: rest).reverse) :: above first rest

/-- The paths above a path, the nearest first.  Above a relative path there is
the empty one. -/
def parents (path : String) : List String :=
  match pieces path with
  | [] => []
  | first :: rest => if path = "" then [] else (above first rest.reverse).drop 1

end Path
end FlashSlots
