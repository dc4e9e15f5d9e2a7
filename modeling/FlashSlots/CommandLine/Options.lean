namespace FlashSlots
namespace CommandLine

/-!
# Options of a command line

Options have long names.  A value stands behind an equals sign or in the next
argument; the next argument counts as a value if it does not look like an
option.  An option may be given once, unless it collects values.

Reading stops at the first argument that is no option.  Two dashes alone are no
option either.
-/

/-- What an option takes. -/
inductive Arity where
  /-- Nothing; the option is given or not. -/
  | flag
  | value
  /-- One value each time it is given. -/
  | values
  deriving DecidableEq

/-- The options of a command, by name. -/
abbrev OptionTable := List (String × Arity)

/-- The options that are given, with their values, in order.  A flag has no
value. -/
structure Given where
  flags : List String
  values : List (String × String)
  deriving DecidableEq

namespace Given

def nothing : Given := ⟨[], []⟩

def addFlag (given : Given) (name : String) : Given :=
  { given with flags := given.flags ++ [name] }

def addValue (given : Given) (name value : String) : Given :=
  { given with values := given.values ++ [(name, value)] }

def hasFlag (given : Given) (name : String) : Bool := given.flags.contains name

/-- The values of an option. -/
def valuesOf (given : Given) (name : String) : List String :=
  (given.values.filter fun entry => entry.1 == name).map (·.2)

/-- The value of an option that is given once at most. -/
def value? (given : Given) (name : String) : Option String := (given.valuesOf name).head?

/-- The option may not be given again. -/
def isUsedUp (given : Given) (name : String) : Arity -> Bool
  | .flag => given.hasFlag name
  | .value => !(given.valuesOf name).isEmpty
  | .values => false

end Given

/-- An option's name, and the value behind its equals sign. -/
def splitOption? (argument : String) : Option (String × Option String) :=
  match argument.toList with
  | '-' :: '-' :: char :: rest =>
    let text := char :: rest
    let name := String.ofList (text.takeWhile (· != '='))
    match text.dropWhile (· != '=') with
    | _ :: value => some (name, some (String.ofList value))
    | [] => some (name, none)
  | _ => none

/-- The argument may be the value of the option in front of it.  A dash alone
may. -/
def isValue (argument : String) : Bool :=
  argument = "-" || argument.toList.head? != some '-'

/-- The options at the front, and the arguments behind them.  There are none if
an option is unknown, given too often, or has a value too many or too few. -/
def readOptions (table : OptionTable) (given : Given) :
    List String -> Option (Given × List String)
  | [] => some (given, [])
  | [argument] =>
    match splitOption? argument with
    | none => some (given, [argument])
    | some (name, attached) =>
      match table.lookup name with
      | none => none
      | some arity =>
        if given.isUsedUp name arity then none
        else
          match arity, attached with
          | .flag, none => some (given.addFlag name, [])
          | .flag, some _ => none
          | _, some value => some (given.addValue name value, [])
          | _, none => none
  | argument :: next :: rest =>
    match splitOption? argument with
    | none => some (given, argument :: next :: rest)
    | some (name, attached) =>
      match table.lookup name with
      | none => none
      | some arity =>
        if given.isUsedUp name arity then none
        else
          match arity, attached with
          | .flag, none => readOptions table (given.addFlag name) (next :: rest)
          | .flag, some _ => none
          | _, some value => readOptions table (given.addValue name value) (next :: rest)
          | _, none =>
            if isValue next then readOptions table (given.addValue name next) rest else none

/-- The options of a command that takes nothing else.  Two dashes may end
them. -/
def readOnlyOptions (table : OptionTable) (arguments : List String) : Option Given :=
  match readOptions table .nothing arguments with
  | some (given, []) => some given
  | some (given, ["--"]) => some given
  | _ => none

end CommandLine
end FlashSlots
