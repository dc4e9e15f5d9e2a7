import FlashSlots.Flash.Backends
import FlashSlots.Package.Archive
import FlashSlots.Package.Plan

namespace FlashSlots
namespace CommandLine

/-!
# Failed commands

A command that has been understood may still fail.  `CommandError.message` is
what it reports then.
-/

/-- Why a command failed. -/
inductive CommandError where
  | access (cause : AccessError)
  | archive (cause : ArchiveError)
  | manifest (cause : ManifestError)
  | package (cause : PackageError)
  | transport (cause : Flash.TransportError)
  | noSuchSlot (number : Nat)
  /-- No slot is chosen. -/
  | noSlot
  /-- No slot is chosen for a build that does not choose one. -/
  | slotRequired (name : String)
  /-- The path does not end in the name of a file. -/
  | noFileName (path : String)
  | unknownBackend (name : String)
  /-- The answer is no text. -/
  | unreadableAnswer
  | declined
  deriving DecidableEq

namespace CommandError

def message : CommandError -> String
  | access cause => cause.message
  | archive cause => cause.message
  | manifest cause => cause.message
  | package (.invalid cause) => cause.message
  | package .overflow => "arithmetic overflow"
  | transport cause => cause.message
  | noSuchSlot number =>
    "BitslotError::Argument: slot " ++ toString number ++ " does not exist, use 0 to 7"
  | noSlot => "BitslotError::Argument: either --slot or --bootloader is required"
  | slotRequired name =>
    "BitslotError::Argument: '" ++ name ++ "' has PSRAM firmware, a --slot is required"
  | noFileName path =>
    "BitslotError::Argument: " ++ Text.quoted path ++ " has no usable file name"
  | unknownBackend name => Flash.Backend.unknownMessage name
  | unreadableAnswer =>
    "BitslotError::Internal: An Internal error occurred: failed to read answer: " ++
      "stream did not contain valid UTF-8"
  | declined => "BitslotError::Argument: flash aborted by user"

/-- The exit status of a failed command. -/
def exitStatus : CommandError -> Nat
  | package .overflow => 101
  | _ => 1

end CommandError
end CommandLine
end FlashSlots
