import FlashSlots.Flash.ImageProgrammer
import FlashSlots.Flash.Loader
import FlashSlots.Flash.Station

namespace FlashSlots
namespace Flash

/-!
# Choosing a programmer

The settings name a programmer.  The names that exist are fixed.
-/

/-- The programmers that settings can name. -/
inductive Backend where
  | image
  | loader
  deriving DecidableEq

namespace Backend

def name : Backend -> String
  | image => "image"
  | loader => "openfpgaloader"

/-- Every programmer, by name. -/
def all : List Backend := [image, loader]

/-- The programmer with this name. -/
def ofName? (name : String) : Option Backend := all.find? fun backend => backend.name == name

/-- The message about a name that is not known. -/
def unknownMessage (name : String) : String :=
  "BitslotError::Argument: bitslot has no programmer backend called '" ++ name ++ "'"

/-- The programmer at work. -/
def station (launcher : Launcher) (backend : Backend) (settings : Settings) : Station :=
  match backend with
  | image =>
    { State := ImageBench
      programmer := imageProgrammer settings
      setUp := ImageProgrammer.bench
      files := ImageBench.tree }
  | loader =>
    { State := FileTree
      programmer := loaderProgrammer launcher settings
      setUp := id
      files := id }

end Backend
end Flash
end FlashSlots
