import FlashSlots.CommandLine.AddressMap
import FlashSlots.CommandLine.Export
import FlashSlots.CommandLine.Invocation
import FlashSlots.CommandLine.StubFile
import FlashSlots.Settings.Layers

namespace FlashSlots
namespace CommandLine

/-!
# The program

The program turns a command line and files into a text, an exit status and
files.  Of all commands only flashing may have to ask first.  So the program
either ends at once or stops with a question, and ends with the answer.
-/

/-- A command that has come to its end. -/
structure Run where
  /-- What has been printed before the end. -/
  printed : String
  result : Except CommandError String
  /-- The files that are left. -/
  tree : FileTree

namespace Run

/-- Everything that is printed. -/
def output (run : Run) : String :=
  match run.result with
  | .ok message => run.printed ++ message ++ "\n"
  | .error _ => run.printed

/-- The exit status. -/
def status (run : Run) : Nat :=
  match run.result with
  | .ok _ => 0
  | .error cause => cause.exitStatus

end Run

/-- How far the program gets without an answer. -/
inductive Stage where
  | ended (run : Run)
  /-- The question has been printed. -/
  | asking (printed : String) (proposal : Proposal) (tree : FileTree)

/-- The exit status for a command line without a meaning. -/
def usageStatus : Nat := 2

namespace Program

/-- The files with the usual settings. -/
def usualSettings : List String :=
  ["/usr/lib/bitslot/config.toml", "/etc/bitslot/config.toml"]

/-- The settings for a command line. -/
def settings (tree : FileTree) (extra : Option String) : Settings :=
  (Settings.layered tree (usualSettings ++ extra.toList)).1

def startFlashing (stations : Stations) (settings : Settings) (inputs : Inputs)
    (options : FlashOptions) (tree : FileTree) : Stage :=
  match consider stations (options.apply settings) inputs options tree with
  | .refused cause => .ended ⟨"", .error cause, tree⟩
  | .listed text => .ended ⟨"", .ok text, tree⟩
  | .proposed proposal =>
    let printed := describePlan proposal.plan ++ "\n"
    if options.noconfirm then
      let (result, left) := proposal.carryOut stations tree
      .ended ⟨printed, result, left⟩
    else .asking (printed ++ proposal.question) proposal tree

/-- Start the command of an invocation. -/
def start [Compression.Writers] (stations : Stations) (invocation : Invocation)
    (tree : FileTree) : Stage :=
  match invocation.command with
  | .package inputs output =>
    let (result, left) := Export.run inputs output tree
    .ended ⟨"", result, left⟩
  | .flash inputs options =>
    startFlashing stations (settings tree invocation.settings) inputs options tree
  | .stub choice input output =>
    let (result, left) := makeStub choice input output tree
    .ended ⟨"", result.map (·.message), left⟩
  | .layout => .ended ⟨"", .ok AddressMap.text, tree⟩

/-- End with an answer, if there is a question. -/
def finish (stations : Stations) (answer : ByteArray) : Stage -> Run
  | .ended run => run
  | .asking printed proposal tree =>
    let (result, left) := proposal.answered stations answer tree
    ⟨printed, result, left⟩

/-- The whole program. -/
def run [Compression.Writers] (stations : Stations) (invocation : Invocation)
    (answer : ByteArray) (tree : FileTree) : Run :=
  finish stations answer (start stations invocation tree)

end Program
end CommandLine
end FlashSlots
