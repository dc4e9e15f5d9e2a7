import FlashSlots.CommandLine.Inputs
import FlashSlots.Relay.Stub

namespace FlashSlots
namespace CommandLine

/-!
# Making a stub file

A bitstream becomes a stub of the relay by being compressed.  The relay finds
the stub under the name for its trigger only, so that another name is worth a
warning.
-/

/-- What is said about a stub file that was made. -/
structure StubReport where
  message : String
  warnings : List String

/-- What is wrong with the name of a stub file. -/
def stubWarnings (trigger : Trigger) (output : String) : List String :=
  if Path.fileName? output = some trigger.stubFileName then []
  else
    ["The relay only loads " ++ trigger.token ++ " from a file called '" ++
      trigger.stubFileName ++ "'"]

/-- Compress the stub for a slot. -/
def makeStub [Compression.Writers] (choice : TargetChoice) (input output : String)
    (tree : FileTree) : Except CommandError StubReport × FileTree :=
  match choice.target with
  | .error cause => (.error cause, tree)
  | .ok target =>
    match tree.read input with
    | .error cause => (.error (.access cause), tree)
    | .ok bitstream =>
      let compressed := StubTable.compress bitstream
      match tree.write true output compressed with
      | .error cause => (.error (.access cause), tree)
      | .ok written =>
        let trigger := Trigger.ofTarget target
        let message := trigger.token ++ ": " ++ toString bitstream.size ++
          " bytes compressed to " ++ toString compressed.size ++ " bytes in " ++ Text.quoted output
        (.ok ⟨message, stubWarnings trigger output⟩, written)

end CommandLine
end FlashSlots
