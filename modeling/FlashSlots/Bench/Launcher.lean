import FlashSlots.Bench.Shell
import FlashSlots.Compression.Stored

namespace FlashSlots
namespace Bench

open Flash (ExitStatus LaunchError Launcher Process)

/-!
# A bench without hardware

The bench offers three programs: `true`, `false`, and `sh`, which runs a script
that it is given.  A program is found under its name or in one of the usual
directories.  Any other file is no program, so that it cannot be started.

There is no compressor either: compressed data are stored.
-/

/-- The programs of the bench. -/
inductive Program where
  | succeed
  | fail
  | shell

def namedProgram? (name : String) : Option Program :=
  if name = "true" then some .succeed
  else if name = "false" then some .fail
  else if name = "sh" then some .shell
  else none

/-- The directories in which the programs are found. -/
def programDirectories : List String := ["/bin/", "/usr/bin/"]

/-- The program that a path leads to. -/
def program? (path : String) : Option Program :=
  match namedProgram? path with
  | some program => some program
  | none => programDirectories.findSome? fun directory =>
      if path.startsWith directory then
        namedProgram? (String.ofList (path.toList.drop directory.length))
      else none

/-- Every process takes some time. -/
def startupTime : Nat := 1000000

/-- What a program does. -/
def runProgram (tree : FileTree) : Program -> List String -> Process
  | .succeed, _ => ⟨⟨startupTime⟩, .exited 0, tree⟩
  | .fail, _ => ⟨⟨startupTime⟩, .exited 1, tree⟩
  | .shell, "-c" :: script :: arguments =>
    let ended := runScript script arguments tree
    ⟨⟨startupTime + ended.runtime⟩, ended.ended.getD (.exited ended.status), ended.tree⟩
  | .shell, _ => ⟨⟨startupTime⟩, .exited 2, tree⟩

/-- Why a path does not lead to a program. -/
def refusal (tree : FileTree) (path : String) : SystemError :=
  if path.toList.contains '/' then
    match tree.find path with
    | .ok _ => .accessDenied
    | .error (.system error) => error
    | .error .content => .notFound
  else .notFound

/-- Starts the programs of the bench. -/
def launcher : Launcher := fun path arguments tree =>
  if (path :: arguments).any fun text => text.toList.contains '\x00' then .error .zeroCharacter
  else
    match program? path with
    | some program => .ok (runProgram tree program arguments)
    | none => .error (.system (refusal tree path))

end Bench
end FlashSlots
