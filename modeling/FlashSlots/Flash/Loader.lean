import FlashSlots.FileTree.Access
import FlashSlots.Flash.Programmer
import FlashSlots.Settings.Basic

namespace FlashSlots
namespace Flash

/-!
# Programming through a loader

This programmer puts every payload into a file of its own and runs a loader on
it.  The loader gets the cable, for a persistent write the offset, the kind of
the payload and the file.  A write succeeds if the loader ends with status
zero before the time limit.

What starts a process is a parameter: a `Launcher` says for a command line what
the process does to the files, how long it runs and how it ends.
-/

/-- How a process ended. -/
inductive ExitStatus where
  | exited (code : Nat)
  | killed (signal : Nat)
  deriving DecidableEq

namespace ExitStatus

/-- The names of the signals, from the first one on. -/
def signalNames : List String :=
  ["SIGHUP", "SIGINT", "SIGQUIT", "SIGILL", "SIGTRAP", "SIGABRT", "SIGBUS", "SIGFPE",
    "SIGKILL", "SIGUSR1", "SIGSEGV", "SIGUSR2", "SIGPIPE", "SIGALRM", "SIGTERM", "SIGSTKFLT",
    "SIGCHLD", "SIGCONT", "SIGSTOP", "SIGTSTP", "SIGTTIN", "SIGTTOU", "SIGURG", "SIGXCPU",
    "SIGXFSZ", "SIGVTALRM", "SIGPROF", "SIGWINCH", "SIGIO", "SIGPWR", "SIGSYS"]

def signalName? (signal : Nat) : Option String :=
  if signal = 0 then none else signalNames[signal - 1]?

def describe : ExitStatus -> String
  | exited code => "exit status: " ++ toString code
  | killed signal => "signal: " ++ toString signal ++
      (match signalName? signal with
        | some name => " (" ++ name ++ ")"
        | none => "")

end ExitStatus

/-- A process, from start to end. -/
structure Process where
  runtime : Duration
  status : ExitStatus
  /-- The files that it leaves. -/
  tree : FileTree

/-- Why a process did not start. -/
inductive LaunchError where
  | system (error : SystemError)
  /-- An argument holds a zero character. -/
  | zeroCharacter
  deriving DecidableEq

def LaunchError.describe : LaunchError -> String
  | system error => error.describe
  | zeroCharacter => "nul byte found in provided data"

/-- What a program does with its arguments and the files. -/
abbrev Launcher := String -> List String -> FileTree -> Except LaunchError Process

namespace Loader

/-- A running loader is looked after in these intervals. -/
def pollInterval : Duration := .ofMilliseconds 50

/-- When a loader that exceeds the limit is given up. -/
def deadline (limit : Duration) : Duration :=
  let interval := pollInterval.nanoseconds
  ⟨(limit.nanoseconds + (interval - 1)) / interval * interval⟩

/-- The command line for a write, the program first. -/
def commandLine (settings : Settings) (mode : Mode) (kind : WriteKind) (offset : UInt32)
    (path : String) : List String :=
  (if settings.useSudo then ["sudo"] else []) ++ [settings.loader, "-c", settings.cable] ++
    (match mode with
      | .persistent => ["-f", "-o", Text.hex offset.toNat]
      | .volatile => []) ++
    ["--file-type", kind.describe, path]

/-- The result of a loader that was started. -/
def judge (settings : Settings) (process : Process) : Except Fault Unit :=
  if (deadline settings.writeTimeout).nanoseconds < process.runtime.nanoseconds then
    .error (.timeout settings.writeTimeout)
  else if process.status = .exited 0 then .ok ()
  else .error (.failed (settings.loader ++ " exited with " ++ process.status.describe))

/-- Run a command line. -/
def run (launcher : Launcher) (settings : Settings) (tree : FileTree) :
    List String -> Except Fault Unit × FileTree
  | [] => (.error (.failed "empty command line"), tree)
  | program :: arguments =>
    match launcher program arguments tree with
    | .error error =>
      (.error (.failed ("failed to start " ++ program ++ ": " ++ error.describe)), tree)
    | .ok process => (judge settings process, process.tree)

/-- The name of the file that holds a payload. -/
def stagedName : WriteKind -> String
  | .bit => "payload.bit"
  | .raw => "payload.bin"

/-- See whether the loader starts at all.  How it ends does not matter. -/
def acquire (launcher : Launcher) (settings : Settings) (tree : FileTree) :
    Except Fault Unit × FileTree :=
  match launcher settings.loader ["--Version"] tree with
  | .error error =>
    (.error (.failed ("cannot run " ++ settings.loader ++ ": " ++ error.describe)), tree)
  | .ok process => (.ok (), process.tree)

/-- Stage the payload, run the loader on it and remove it again. -/
def write (launcher : Launcher) (settings : Settings) (mode : Mode) (kind : WriteKind)
    (offset : UInt32) (payload : ByteArray) (tree : FileTree) : Except Fault Unit × FileTree :=
  let location := ["tmp", stagedName kind]
  let staged := tree.put location (.file payload)
  let (result, left) :=
    run launcher settings staged (commandLine settings mode kind offset ("/tmp/" ++ stagedName kind))
  (result, left.clear location)

def describe (settings : Settings) (mode : Mode) (op : WriteOp) : String :=
  " ".intercalate (commandLine settings mode op.kind op.address ("<" ++ op.region ++ ">"))

end Loader

/-- The programmer that runs the loader of the settings. -/
def loaderProgrammer (launcher : Launcher) (settings : Settings) : Programmer FileTree where
  name := "openfpgaloader"
  acquire := Loader.acquire launcher settings
  write := Loader.write launcher settings
  release := fun tree => (.ok (), tree)
  describe := Loader.describe settings

end Flash
end FlashSlots
