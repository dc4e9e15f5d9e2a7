import FlashSlots.Flash.Loader
import FlashSlots.Text.Decimal

namespace FlashSlots
namespace Bench

open Flash (ExitStatus)

/-!
# A small command language

A script is a list of simple commands, run one after the other.  A command is
a list of words, in which quotes protect blanks and a dollar sign stands in
front of a parameter.  Its output goes to a file, or is dropped.

The language is what a test bench needs to stand in for a loader: it records
its arguments and the payload, and it ends in a given way.
-/

/-- A part of a word. -/
inductive Segment where
  | char (char : Char)
  /-- The argument with this number. -/
  | argument (index : Nat)
  /-- What follows the last dot of the argument. -/
  | extension (index : Nat)
  /-- The number of the process. -/
  | process

inductive Token where
  | word (segments : List Segment)
  /-- Write the output of a command to the file that follows, or add to it. -/
  | output (add : Bool)
  /-- The next command runs if the one before succeeded. -/
  | andThen
  /-- The next command runs if the one before failed. -/
  | orElse
  /-- The next command runs in any case. -/
  | next

/-- How the characters at hand are read. -/
inductive Quoting where
  | bare
  | single
  | double

/-- The value of a decimal digit. -/
def digit? (char : Char) : Option Nat :=
  if char.isDigit then some (char.toNat - '0'.toNat) else none

/-- Put a finished word in front of the tokens behind it. -/
def closeWord (word : Option (List Segment)) (tokens : List Token) : List Token :=
  match word with
  | none => tokens
  | some segments => .word segments.reverse :: tokens

/-- A word with one more segment. -/
def extend (word : Option (List Segment)) (segment : Segment) : Option (List Segment) :=
  some (segment :: word.getD [])

/-- The tokens of a script, behind an unfinished word. -/
def tokens (quoting : Quoting) (word : Option (List Segment)) : List Char -> List Token
  | [] => closeWord word []
  | '$' :: '$' :: rest =>
    match quoting with
    | .single => tokens quoting (extend (extend word (.char '$')) (.char '$')) rest
    | _ => tokens quoting (extend word .process) rest
  | '$' :: '\x7b' :: index :: '#' :: '#' :: '*' :: '.' :: '\x7d' :: rest =>
    tokens quoting (extend word (.extension ((digit? index).getD 0))) rest
  | '$' :: '\x7b' :: index :: '\x7d' :: rest =>
    tokens quoting (extend word (.argument ((digit? index).getD 0))) rest
  | '$' :: index :: rest =>
    match quoting, digit? index with
    | .single, _ => tokens quoting (extend (extend word (.char '$')) (.char index)) rest
    | _, some n => tokens quoting (extend word (.argument n)) rest
    | _, none => tokens quoting (extend (extend word (.char '$')) (.char index)) rest
  | '\\' :: char :: rest =>
    match quoting with
    | .bare => tokens quoting (extend word (.char char)) rest
    | .single => tokens quoting (extend (extend word (.char '\\')) (.char char)) rest
    | .double =>
      if char = '"' || char = '\\' || char = '$' then
        tokens quoting (extend word (.char char)) rest
      else tokens quoting (extend (extend word (.char '\\')) (.char char)) rest
  | '&' :: '&' :: rest =>
    match quoting with
    | .bare => closeWord word (.andThen :: tokens quoting none rest)
    | _ => tokens quoting (extend (extend word (.char '&')) (.char '&')) rest
  | '|' :: '|' :: rest =>
    match quoting with
    | .bare => closeWord word (.orElse :: tokens quoting none rest)
    | _ => tokens quoting (extend (extend word (.char '|')) (.char '|')) rest
  | '>' :: '>' :: rest =>
    match quoting with
    | .bare => closeWord word (.output true :: tokens quoting none rest)
    | _ => tokens quoting (extend (extend word (.char '>')) (.char '>')) rest
  | char :: rest =>
    match quoting with
    | .single =>
      if char = '\x27' then tokens .bare word rest else tokens quoting (extend word (.char char)) rest
    | .double =>
      if char = '"' then tokens .bare word rest else tokens quoting (extend word (.char char)) rest
    | .bare =>
      if char = '\x27' then tokens .single (some (word.getD [])) rest
      else if char = '"' then tokens .double (some (word.getD [])) rest
      else if char = ' ' || char = '\t' then closeWord word (tokens quoting none rest)
      else if char = ';' || char = '\n' then closeWord word (.next :: tokens quoting none rest)
      else if char = '>' then closeWord word (.output false :: tokens quoting none rest)
      else tokens quoting (extend word (.char char)) rest

/-- The number that the running script sees as its own. -/
def processNumber : String := "4711"

/-- The text behind the last dot, or all of it without one. -/
def afterLastDot (text : String) : String :=
  String.ofList ((text.toList.reverse.takeWhile (· != '.')).reverse)

/-- A word with its parameters filled in. -/
def expand (arguments : List String) (segments : List Segment) : String :=
  String.join (segments.map fun
    | .char char => String.singleton char
    | .argument index => arguments.getD index ""
    | .extension index => afterLastDot (arguments.getD index "")
    | .process => processNumber)

/-- A command: its words, and the file for its output. -/
structure Command where
  words : List String
  output : Option (Bool × String)

/-- When a command runs. -/
inductive Condition where
  | always
  | success
  | failure

/-- The commands of a script.  The command at hand has the words and the output
given, the words in reverse. -/
def commands (arguments : List String) (condition : Condition) (words : List String)
    (output : Option (Bool × String)) : List Token -> List (Condition × Command)
  | [] => [(condition, ⟨words.reverse, output⟩)]
  | .output add :: .word segments :: rest =>
    commands arguments condition words (some (add, expand arguments segments)) rest
  | .output _ :: rest => commands arguments condition words output rest
  | .word segments :: rest =>
    commands arguments condition (expand arguments segments :: words) output rest
  | .next :: rest =>
    (condition, ⟨words.reverse, output⟩) :: commands arguments .always [] none rest
  | .andThen :: rest =>
    (condition, ⟨words.reverse, output⟩) :: commands arguments .success [] none rest
  | .orElse :: rest =>
    (condition, ⟨words.reverse, output⟩) :: commands arguments .failure [] none rest

/-- A format with its escapes and the next argument for each placeholder. -/
def formatted : List Char -> List String -> String
  | '%' :: 's' :: rest, argument :: more => argument ++ formatted rest more
  | '%' :: 's' :: rest, [] => formatted rest []
  | '%' :: '%' :: rest, arguments => "%" ++ formatted rest arguments
  | '\\' :: 'n' :: rest, arguments => "\n" ++ formatted rest arguments
  | '\\' :: 't' :: rest, arguments => "\t" ++ formatted rest arguments
  | char :: rest, arguments => String.singleton char ++ formatted rest arguments
  | [], _ => ""

/-- How many arguments a format takes. -/
def placeholders : List Char -> Nat
  | '%' :: 's' :: rest => placeholders rest + 1
  | '%' :: '%' :: rest => placeholders rest
  | _ :: rest => placeholders rest
  | [] => 0

/-- A format, used again while arguments are left. -/
def printed (format : List Char) : Nat -> List String -> String
  | 0, _ => ""
  | fuel + 1, arguments =>
    let taken := placeholders format
    let rest := arguments.drop taken
    formatted format arguments ++
      (if taken = 0 || rest.isEmpty then "" else printed format fuel rest)

/-- Nanoseconds of a number of seconds. -/
def sleepTime (text : String) : Nat :=
  let digits (chars : List Char) : Nat :=
    chars.foldl (fun value char => value * 10 + (digit? char).getD 0) 0
  let whole := text.toList.takeWhile (· != '.')
  let fraction := ((text.toList.dropWhile (· != '.')).drop 1).take 9
  digits whole * 1000000000 + digits fraction * Nat.pow 10 (9 - fraction.length)

/-- The signal that an option of `kill` names. -/
def signal? (option : String) : Option Nat :=
  let name := String.ofList (option.toList.drop 1)
  match name.toNat? with
  | some number => some number
  | none => (ExitStatus.signalNames.findIdx? fun known =>
      known == name || known == "SIG" ++ name).map (· + 1)

/-- Signals that leave a process alone. -/
def isHarmless (signal : Nat) : Bool := [0, 17, 18, 23, 28].contains signal

/-- A script under way. -/
structure Running where
  tree : FileTree
  runtime : Nat
  /-- The status of the last command. -/
  status : Nat
  ended : Option ExitStatus

/-- Add output to a file, or replace it. -/
def emit (running : Running) (output : Option (Bool × String)) (text : ByteArray) : Running :=
  match output with
  | none => { running with status := 0 }
  | some (add, path) =>
    let before := if add then (running.tree.content path).toOption.getD .empty else .empty
    match running.tree.write true path (before ++ text) with
    | .ok tree => { running with tree := tree, status := 0 }
    | .error _ => { running with status := 2 }

/-- Run one command. -/
def perform (running : Running) (output : Option (Bool × String)) : List String -> Running
  | [] => emit running output .empty
  | "exec" :: command =>
    let after := perform running output command
    { after with ended := some (after.ended.getD (.exited after.status)) }
  | ["exit"] => { running with ended := some (.exited running.status) }
  | "exit" :: code :: _ => { running with ended := some (.exited (code.toNat?.getD 2 % 256)) }
  | ["kill", option, target] =>
    match signal? option with
    | some signal =>
      if target = processNumber then
        if isHarmless signal then { running with status := 0 }
        else { running with ended := some (.killed signal) }
      else { running with status := 1 }
    | none => { running with status := 1 }
  | ["kill", target] =>
    if target = processNumber then { running with ended := some (.killed 15) }
    else { running with status := 1 }
  | ["sleep", time] =>
    { running with runtime := running.runtime + sleepTime time, status := 0 }
  | "true" :: _ => emit running output .empty
  | ":" :: _ => emit running output .empty
  | "false" :: _ => { emit running output .empty with status := 1 }
  | "echo" :: words => emit running output (" ".intercalate words ++ "\n").toUTF8
  | "printf" :: format :: arguments =>
    emit running output (printed format.toList (arguments.length + 1) arguments).toUTF8
  | ["cat", path] =>
    match running.tree.content path with
    | .ok bytes => emit running output bytes
    | .error _ => { emit running output .empty with status := 1 }
  | ["test", first, "=", second] =>
    { running with status := if first = second then 0 else 1 }
  | ["[", first, "=", second, "]"] =>
    { running with status := if first = second then 0 else 1 }
  | _ => { emit running output .empty with status := 127 }

/-- Run commands until one ends the script. -/
def performAll (running : Running) : List (Condition × Command) -> Running
  | [] => running
  | (condition, command) :: rest =>
    let wanted := match condition with
      | .always => true
      | .success => running.status == 0
      | .failure => running.status != 0
    if !wanted || (command.words.isEmpty && command.output.isNone) then performAll running rest
    else
      let after := perform running command.output command.words
      if after.ended.isSome then after else performAll after rest

def runScript (script : String) (arguments : List String) (tree : FileTree) : Running :=
  performAll ⟨tree, 0, 0, none⟩
    (commands arguments .always [] none (tokens .bare none script.toList))

end Bench
end FlashSlots
