import FlashSlots.CommandLine.Flashing
import FlashSlots.CommandLine.Options

namespace FlashSlots
namespace CommandLine

/-!
# Command lines

A command line names a command with its options; options that belong to every
command stand in front of it.  `Invocation.parse?` understands it or does not:
a line that says too much, too little or something contradictory has no
meaning, and nothing is done.
-/

inductive Command where
  /-- Show a plan, and write it into a directory if there is one. -/
  | package (inputs : Inputs) (output : Option String)
  /-- Write a plan into flash. -/
  | flash (inputs : Inputs) (options : FlashOptions)
  /-- Make a stub file. -/
  | stub (choice : TargetChoice) (input output : String)
  /-- Show the address map. -/
  | layout
  deriving DecidableEq

structure Invocation where
  /-- A file with settings on top of the usual ones. -/
  settings : Option String
  command : Command
  deriving DecidableEq

namespace Invocation

/-! ## Values -/

/-- The number of a slot.  It has a sign or not, and fits an octet. -/
def slotNumber? (text : String) : Option Nat :=
  let (negative, digits) :=
    match text.toList with
    | '-' :: rest => (true, rest)
    | '+' :: rest => (false, rest)
    | chars => (false, chars)
  if digits.isEmpty || !digits.all Char.isDigit then none
  else
    let number := digits.foldl (fun value char => value * 10 + (char.toNat - 0x30)) 0
    if 255 < number || (negative && number != 0) then none else some number

/-- The paths that an option gives.  None of them may be empty. -/
def paths? (given : Given) (name : String) : Option (List String) :=
  (given.valuesOf name).mapM fun path => if path.isEmpty then none else some path

/-- The path that an option gives, if it is given. -/
def path? (given : Given) (name : String) : Option (Option String) :=
  (paths? given name).map List.head?

/-- The path that an option gives.  It has to be given. -/
def requiredPath? (given : Given) (name : String) : Option String :=
  (path? given name).bind id

/-! ## Inputs -/

def targetTable : OptionTable := [("slot", .value), ("bootloader", .flag)]

/-- The slot, which has at most one name. -/
def choice? (given : Given) : Option TargetChoice :=
  match given.value? "slot", given.hasFlag "bootloader" with
  | none, false => some .unspecified
  | none, true => some .bootloader
  | some number, false => (slotNumber? number).map .slot
  | some _, true => none

def inputsTable : OptionTable :=
  targetTable ++
    [("bitstream", .value), ("firmware", .values), ("manifest", .value), ("archive", .value)]

/-- The build.  An archive stands in for all loose files, of which two are
needed. -/
def source? (given : Given) : Option BuildSource := do
  let bitstream <- path? given "bitstream"
  let manifest <- path? given "manifest"
  let firmware <- paths? given "firmware"
  let archive <- path? given "archive"
  match archive, bitstream, manifest, firmware with
  | some archive, none, none, [] => return .archive archive
  | none, some bitstream, some manifest, firmware => return .loose bitstream manifest firmware
  | _, _, _, _ => none

def inputs? (given : Given) : Option Inputs := do
  let choice <- choice? given
  let source <- source? given
  return ⟨choice, source⟩

/-! ## Commands -/

def package? (arguments : List String) : Option Command := do
  let given <- readOnlyOptions (inputsTable ++ [("output", .value)]) arguments
  let inputs <- inputs? given
  let output <- path? given "output"
  return .package inputs output

def flash? (arguments : List String) : Option Command := do
  let given <- readOnlyOptions
    (inputsTable ++ [("dry-run", .flag), ("noconfirm", .flag), ("volatile", .flag),
      ("backend", .value), ("image", .value)]) arguments
  let inputs <- inputs? given
  let image <- path? given "image"
  return .flash inputs
    { dryRun := given.hasFlag "dry-run"
      noconfirm := given.hasFlag "noconfirm"
      volatile := given.hasFlag "volatile"
      backend := given.value? "backend"
      image := image }

def stub? (arguments : List String) : Option Command := do
  let given <- readOnlyOptions (targetTable ++ [("input", .value), ("output", .value)]) arguments
  let choice <- choice? given
  let input <- requiredPath? given "input"
  let output <- requiredPath? given "output"
  return .stub choice input output

def layout? (arguments : List String) : Option Command := do
  let _ <- readOnlyOptions [] arguments
  return .layout

/-- A command, its name in front. -/
def command? : List String -> Option Command
  | "package" :: arguments => package? arguments
  | "flash" :: arguments => flash? arguments
  | "stub" :: arguments => stub? arguments
  | "layout" :: arguments => layout? arguments
  | _ => none

/-- What a command line means. -/
def parse? (arguments : List String) : Option Invocation := do
  let (given, rest) <- readOptions [("config", .value)] .nothing arguments
  let settings <- path? given "config"
  let command <- command? rest
  return ⟨settings, command⟩

end Invocation
end CommandLine
end FlashSlots
