import FlashSlots.FileTree.Basic
import FlashSlots.Flash.Session

namespace FlashSlots
namespace Flash

/-!
# Stations

A station is a programmer among files.  A session at a station starts from the
files and leaves files behind; what else the programmer keeps in its state is
gone afterwards.
-/

/-- A programmer, and how its states hold files. -/
structure Station where
  /-- The states of the programmer. -/
  State : Type
  programmer : Programmer State
  /-- The state in front of a session. -/
  setUp : FileTree -> State
  files : State -> FileTree

namespace Station

/-- Execute a plan in a session of its own. -/
def run (station : Station) (mode : Mode) (plan : WritePlan) (tree : FileTree) :
    Outcome × FileTree :=
  let (outcome, state) := Session.run station.programmer mode plan (station.setUp tree)
  (outcome, station.files state)

end Station
end Flash
end FlashSlots
