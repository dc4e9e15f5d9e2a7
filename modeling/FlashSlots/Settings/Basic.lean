import FlashSlots.Duration

namespace FlashSlots

/-!
# Programmer settings

The settings choose a programmer and hold what the programmers need to know.
-/

structure Settings where
  /-- The name of the programmer. -/
  backend : String
  /-- The cable that the loader uses. -/
  cable : String
  /-- The loader's executable. -/
  loader : String
  /-- The loader is run with raised rights. -/
  useSudo : Bool
  /-- The limit for a single write. -/
  writeTimeout : Duration
  /-- The file that stands in for the chip. -/
  imagePath : Option String
  deriving DecidableEq

namespace Settings

/-- What holds where nothing is set. -/
def standard : Settings where
  backend := "openfpgaloader"
  cable := "dirtyJtag"
  loader := "openFPGALoader"
  useSudo := true
  writeTimeout := .ofSeconds 120
  imagePath := none

end Settings
end FlashSlots
