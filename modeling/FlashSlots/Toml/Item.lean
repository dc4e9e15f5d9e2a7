namespace FlashSlots
namespace Toml

/-!
# The contents of a TOML document

A document is a tree of tables.  A table remembers how it came to be, since
that decides who may add to it: a header may go through any table that was not
written in braces, while a dotted key only extends tables that dotted keys have
made.

`assign` adds one key, and `within` goes to the table that a header names.
Both give nothing if the document defines something twice.
-/

/-- How a table came to be. -/
inductive Origin where
  /-- A header names it. -/
  | header
  /-- It lies on the way of a header. -/
  | implied
  /-- It lies on the way of a dotted key. -/
  | dotted
  /-- It is a value in braces. -/
  | braces
  deriving DecidableEq

/-- What a key stands for.  Nobody asks for the value of a real number or of a
moment in time, so they keep none. -/
inductive Item where
  | text (value : String)
  | integer (value : Int)
  | real
  | bool (truth : Bool)
  | moment
  | list (items : List Item)
  | table (origin : Origin) (members : List (String × Item))
  /-- The tables that repeated headers in double brackets have made. -/
  | tables (elements : List (List (String × Item)))

/-- The members of a table, in order. -/
abbrev Members := List (String × Item)

/-- What a key stands for. -/
def find? (members : Members) (key : String) : Option Item := members.lookup key

/-- Let a key stand for something else. -/
def replace (members : Members) (key : String) (item : Item) : Members :=
  members.map fun member => if member.1 = key then (key, item) else member

/-- Change the last element, if there is one. -/
def changeLast (change : α -> Option α) : List α -> Option (List α)
  | [] => none
  | [last] => (change last).map ([·])
  | first :: rest => (changeLast change rest).map (first :: ·)

/-- Give a value to a dotted key.  The tables on its way are made if they are
missing. -/
def assign (value : Item) : List String -> Members -> Option Members
  | [], _ => none
  | [key], members =>
    match find? members key with
    | none => some (members ++ [(key, value)])
    | some _ => none
  | step :: key :: path, members =>
    match find? members step with
    | none =>
      (assign value (key :: path) []).map fun inner => members ++ [(step, .table .dotted inner)]
    | some (.table origin inner) =>
      if origin = .dotted || (origin = .implied && !path.isEmpty) then
        (assign value (key :: path) inner).map fun inner =>
          replace members step (.table origin inner)
      else none
    | some (.tables elements) =>
      if path.isEmpty then none
      else
        (changeLast (assign value (key :: path)) elements).map fun elements =>
          replace members step (.tables elements)
    | some _ => none

/-- Give values to several keys, in order. -/
def assignAll (assignments : List (List String × Item)) (members : Members) : Option Members :=
  assignments.foldlM (fun members (path, value) => assign value path members) members

/-- Change the table at the end of a path.  The tables on its way are made if
they are missing, and of several tables with the same name the last one
counts. -/
def within (change : Members -> Option Members) : List String -> Members -> Option Members
  | [], members => change members
  | step :: path, members =>
    match find? members step with
    | none =>
      (within change path []).map fun inner => members ++ [(step, .table .implied inner)]
    | some (.table origin inner) =>
      if origin = .braces then none
      else
        (within change path inner).map fun inner => replace members step (.table origin inner)
    | some (.tables elements) =>
      (changeLast (within change path) elements).map fun elements =>
        replace members step (.tables elements)
    | some _ => none

end Toml
end FlashSlots
