import FlashSlots.Toml.Item
import FlashSlots.Toml.Moment
import FlashSlots.Toml.Number
import FlashSlots.Toml.Text

namespace FlashSlots
namespace Toml

/-!
# Reading TOML

A document is a sequence of lines: headers, keys with values, and lines that
hold at most a comment.  The lines are read first; then the tables are put
together section by section, in order.

Lists and tables in braces may be nested up to a fixed depth, and a dotted key
has a limit as well.
-/

/-- A value may lie inside this many brackets and braces. -/
def maximumDepth : Nat := 79

/-- A key has at most this many parts. -/
def maximumParts : Nat := 79

/-- Items with marks between them.  The list ends in front of the first mark
that no item follows. -/
def separated (mark : Char) (read : List Char -> Option (α × List Char)) (input : List Char) :
    List α × List Char :=
  match read input with
  | none => ([], input)
  | some (first, rest) =>
    match rest with
    | char :: more =>
      if _shorter : char = mark ∧ more.length < input.length then
        match separated mark read more with
        | ([], _) => ([first], rest)
        | (others, behind) => (first :: others, behind)
      else ([first], rest)
    | [] => ([first], rest)
  termination_by input.length
  decreasing_by exact _shorter.2

/-! ## Keys -/

def isBareKey (char : Char) : Bool := char.isAlphanum || char == '_' || char == '-'

/-- A part of a key with the blanks around it. -/
def readKeyPart (input : List Char) : Option (String × List Char) :=
  match skipBlanks input with
  | '"' :: rest => (readQuoted [] rest).map fun (part, rest) => (part, skipBlanks rest)
  | '\x27' :: rest => (readLiteral [] rest).map fun (part, rest) => (part, skipBlanks rest)
  | start =>
    match start.takeWhile isBareKey with
    | [] => none
    | part => some (String.ofList part, skipBlanks (start.dropWhile isBareKey))

/-- A key, as the parts between its dots. -/
def readKey (input : List Char) : Option (List String × List Char) :=
  match separated '.' readKeyPart input with
  | ([], _) => none
  | (parts, rest) => if parts.length ≤ maximumParts then some (parts, rest) else none

/-! ## Comments -/

/-- What is left behind a comment, from its sign on. -/
def skipComment (input : List Char) : List Char := input.dropWhile isPlain

/-- What is left behind blanks, comments and line ends. -/
def skipTrivia (input : List Char) : List Char :=
  match _start : skipSpace input with
  | '#' :: rest =>
    match _line : skipNewline (skipComment rest) with
    | some behind => skipTrivia behind
    | none => '#' :: rest
  | start => start
  termination_by input.length
  decreasing_by
    have first := skipSpace_le input
    have second := (List.dropWhile_suffix isPlain (l := rest)).length_le
    have third := skipNewline_shorter _line
    unfold skipComment at third
    rw [_start, List.length_cons] at first
    omega

/-- What is left behind the end of a line, with blanks and a comment in front
of it.  The document may end as well. -/
def skipLineEnd (input : List Char) : Option (List Char) :=
  let rest :=
    match skipBlanks input with
    | '#' :: rest => skipComment rest
    | start => start
  if rest.isEmpty then some [] else skipNewline rest

/-! ## Values -/

/-- A number or a moment. -/
def readQuantity (input : List Char) : Option (Item × List Char) :=
  match skipMoment input with
  | some rest => some (.moment, rest)
  | none =>
    match skipReal input with
    | some rest => some (.real, rest)
    | none => (readInteger input).map fun (value, rest) => (.integer value, rest)

/-- A value that holds no other value. -/
def readScalar : List Char -> Option (Item × List Char)
  | 't' :: 'r' :: 'u' :: 'e' :: rest => some (.bool true, rest)
  | 'f' :: 'a' :: 'l' :: 's' :: 'e' :: rest => some (.bool false, rest)
  | '"' :: rest => (readText ('"' :: rest)).map fun (text, rest) => (.text text, rest)
  | '\x27' :: rest => (readText ('\x27' :: rest)).map fun (text, rest) => (.text text, rest)
  | input => readQuantity input

/-- An item of a list, with what may stand around it. -/
def readListItem (read : List Char -> Option (Item × List Char)) (input : List Char) :
    Option (Item × List Char) :=
  (read (skipTrivia input)).map fun (item, rest) => (item, skipTrivia rest)

/-- The rest of a list, behind its bracket.  A comma may follow the last
item. -/
def readList (read : List Char -> Option (Item × List Char)) (input : List Char) :
    Option (Item × List Char) :=
  let (items, rest) := separated ',' (readListItem read) input
  let behind :=
    match rest with
    | ',' :: more => if items.isEmpty then rest else more
    | _ => rest
  match skipTrivia behind with
  | ']' :: rest => some (.list items, rest)
  | _ => none

/-- A key and its value. -/
def readAssignment (read : List Char -> Option (Item × List Char)) (input : List Char) :
    Option ((List String × Item) × List Char) :=
  match readKey input with
  | some (key, '=' :: rest) =>
    (read (skipBlanks rest)).map fun (item, rest) => ((key, item), skipBlanks rest)
  | _ => none

/-- The rest of a table in braces, behind the first one. -/
def readTable (read : List Char -> Option (Item × List Char)) (input : List Char) :
    Option (Item × List Char) :=
  let (assignments, behind) := separated ',' (readAssignment read) input
  match skipBlanks behind, assignAll assignments [] with
  | '\x7d' :: rest, some members => some (.table .braces members, rest)
  | _, _ => none

/-- A value inside fewer brackets and braces than `room` allows. -/
def readValue (room : Nat) (input : List Char) : Option (Item × List Char) :=
  match room, input with
  | room + 1, '[' :: rest => readList (readValue room) rest
  | room + 1, '\x7b' :: rest => readTable (readValue room) rest
  | _, input => readScalar input

/-! ## Lines -/

/-- A line that says something. -/
inductive Line where
  /-- What follows belongs to this table. -/
  | header (path : List String)
  /-- What follows belongs to a new table in this list. -/
  | element (path : List String)
  | assignment (path : List String) (value : Item)

/-- A line up to its end. -/
def readLine : List Char -> Option (Line × List Char)
  | '[' :: '[' :: input =>
    match readKey input with
    | some (path, ']' :: ']' :: rest) => (skipLineEnd rest).map (.element path, ·)
    | _ => none
  | '[' :: input =>
    match readKey input with
    | some (path, ']' :: rest) => (skipLineEnd rest).map (.header path, ·)
    | _ => none
  | input =>
    match readAssignment (readValue maximumDepth) input with
    | some ((path, value), rest) => (skipLineEnd rest).map (.assignment path value, ·)
    | none => none

/-- The lines of a document. -/
def readLines (input : List Char) : Option (List Line) :=
  match _start : skipSpace input with
  | [] => some []
  | '#' :: rest =>
    match _line : skipLineEnd ('#' :: rest) with
    | some behind => if _shorter : behind.length < input.length then readLines behind else none
    | none => none
  | start =>
    match readLine start with
    | some (line, behind) =>
      if _shorter : behind.length < input.length then (readLines behind).map (line :: ·) else none
    | none => none
  termination_by input.length

/-! ## Documents -/

/-- A header and the keys below it. -/
structure Section where
  line : Line
  assignments : List (List String × Item)

/-- The keys in front of the first header, and the sections. -/
def sections : List Line -> List (List String × Item) × List Section
  | [] => ([], [])
  | .assignment path value :: rest =>
    let (first, more) := sections rest
    ((path, value) :: first, more)
  | line :: rest =>
    let (first, more) := sections rest
    ([], ⟨line, first⟩ :: more)

/-- Define the table of a section where it belongs.  It may have been on the
way of a header before and nothing else. -/
def defineTable (assignments : List (List String × Item)) (key : String) (parent : Members) :
    Option Members :=
  match find? parent key with
  | none =>
    (assignAll assignments []).map fun members => parent ++ [(key, .table .header members)]
  | some (.table .implied members) =>
    (assignAll assignments members).map fun members =>
      replace parent key (.table .header members)
  | some _ => none

/-- Add a table to a list of tables. -/
def addElement (assignments : List (List String × Item)) (key : String) (parent : Members) :
    Option Members :=
  match find? parent key with
  | none =>
    (assignAll assignments []).map fun members => parent ++ [(key, .tables [members])]
  | some (.tables elements) =>
    (assignAll assignments []).map fun members =>
      replace parent key (.tables (elements ++ [members]))
  | some _ => none

/-- Add a section to a document. -/
def addSection (root : Members) (part : Section) : Option Members :=
  match part.line with
  | .header path =>
    match path.getLast? with
    | some key => within (defineTable part.assignments key) path.dropLast root
    | none => none
  | .element path =>
    match path.getLast? with
    | some key => within (addElement part.assignments key) path.dropLast root
    | none => none
  | .assignment _ _ => none

/-- The characters of a document without the mark of its byte order. -/
def content (document : String) : List Char :=
  match document.toList with
  | '\ufeff' :: rest => rest
  | chars => chars

/-- The table that a document describes. -/
def parse? (document : String) : Option Members := do
  let lines <- readLines (content document)
  let (first, more) := sections lines
  let root <- assignAll first []
  more.foldlM addSection root

end Toml
end FlashSlots
