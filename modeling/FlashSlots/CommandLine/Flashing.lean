import FlashSlots.CommandLine.Inputs
import FlashSlots.Text.Blank

namespace FlashSlots
namespace CommandLine

open Flash (Backend Mode Outcome Report Station)

/-!
# Flashing a build

Before anything is written, the command decides.  It refuses if the programmer
is unknown or the build has no plan; it lists the plan if that is all it should
do; otherwise it proposes to write it, and someone has to agree.  Only a
proposal can be carried out.
-/

structure FlashOptions where
  /-- List what would happen. -/
  dryRun : Bool
  /-- Do not ask. -/
  noconfirm : Bool
  /-- Write into configuration memory. -/
  volatile : Bool
  backend : Option String
  /-- The file that stands in for the chip. -/
  image : Option String
  deriving DecidableEq

namespace FlashOptions

def mode (options : FlashOptions) : Mode :=
  if options.volatile then .volatile else .persistent

/-- The settings with what the options change.  An image chooses its programmer
unless one is named. -/
def apply (options : FlashOptions) (settings : Settings) : Settings :=
  let imaged :=
    match options.image with
    | some path => { settings with imagePath := some path, backend := Backend.image.name }
    | none => settings
  match options.backend with
  | some backend => { imaged with backend := backend }
  | none => imaged

end FlashOptions

/-- A plan that is ready to be written. -/
structure Proposal where
  settings : Settings
  backend : Backend
  mode : Mode
  plan : WritePlan
  deriving DecidableEq

/-- What comes of a command before anything is written. -/
inductive Decision where
  | refused (cause : CommandError)
  /-- The text that lists the plan and what a programmer would do. -/
  | listed (text : String)
  | proposed (proposal : Proposal)

/-- How programmers are found for a name. -/
abbrev Stations := Backend -> Settings -> Station

/-- Consider a command, under the settings that the options have been applied
to. -/
def consider (stations : Stations) (settings : Settings) (inputs : Inputs) (options : FlashOptions)
    (tree : FileTree) : Decision :=
  match Backend.ofName? settings.backend with
  | none => .refused (.unknownBackend settings.backend)
  | some backend =>
    match inputs.plan tree with
    | .error cause => .refused cause
    | .ok plan =>
      if options.dryRun then
        .listed (describePlan plan ++ "\n" ++ "\n".intercalate
          (Flash.dryRun (stations backend settings).programmer options.mode plan))
      else .proposed ⟨settings, backend, options.mode, plan⟩

/-- What a report says about the writes. -/
def describeReport (plan : WritePlan) (report : Report) : String :=
  "'" ++ plan.manifest.name ++ "' written to " ++ plan.target.describe ++ ": " ++
    ", ".intercalate report.written ++
    (if report.skipped.isEmpty then ""
      else " (skipped: " ++ ", ".intercalate report.skipped ++ ")")

def firstLine (answer : ByteArray) : List UInt8 := answer.data.toList.takeWhile (· != 0x0A)

/-- An answer agrees if its first line is `y` or `yes`, whatever the case and
the blanks around it. -/
def agrees (answer : ByteArray) : Except CommandError Bool :=
  match String.fromUTF8? ⟨(firstLine answer).toArray⟩ with
  | none => .error .unreadableAnswer
  | some line =>
    let word := (Text.trim line.toList).map Char.toLower
    .ok (word == ['y'] || word == ['y', 'e', 's'])

namespace Proposal

def question (proposal : Proposal) : String :=
  "Write " ++ proposal.plan.target.describe ++ " with '" ++ proposal.settings.backend ++
    "'? [y/N] "

/-- Write the plan. -/
def carryOut (stations : Stations) (proposal : Proposal) (tree : FileTree) :
    Except CommandError String × FileTree :=
  let station := stations proposal.backend proposal.settings
  let (outcome, left) := station.run proposal.mode proposal.plan tree
  match outcome.result with
  | .error cause => (.error (.transport cause), left)
  | .ok report => (.ok (describeReport proposal.plan report), left)

/-- Write the plan if the answer agrees. -/
def answered (stations : Stations) (proposal : Proposal) (answer : ByteArray) (tree : FileTree) :
    Except CommandError String × FileTree :=
  match agrees answer with
  | .error cause => (.error cause, tree)
  | .ok false => (.error .declined, tree)
  | .ok true => proposal.carryOut stations tree

end Proposal
end CommandLine
end FlashSlots
