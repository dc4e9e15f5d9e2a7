namespace FlashSlots
namespace Selector

/-!
# The button

The button is sampled.  A press starts with the first sample that shows it
down.  A release counts only once it has lasted for the debounce time; a
shorter one is contact bounce, and the press goes on.  A press that is held
long enough is reported while the button is still down, any other press when
its release is confirmed.  No press is reported twice.

Times are in milliseconds and may be any numbers.
-/

/-- The hold time of a long press. -/
def longPressTime : Nat := 3000

/-- Shorter releases are bounce. -/
def debounceTime : Nat := 50

/-- What a press turns out to be. -/
inductive Press where
  | short
  | long
  deriving DecidableEq

inductive Button where
  /-- There is no press. -/
  | idle
  /-- A press since this time; `reported` once it has been long. -/
  | held (since : Nat) (reported : Bool)
  /-- A press whose release, at this time, is not confirmed. -/
  | released (since : Nat) (reported : Bool) (upSince : Nat)
  deriving DecidableEq

namespace Button

/-- Another sample that shows the button down. -/
def hold (since : Nat) (reported : Bool) (now : Nat) : Button × Option Press :=
  if !reported && longPressTime ≤ now - since then (held since true, some .long)
  else (held since reported, none)

/-- Another sample that shows the button up, after a release at `upSince`. -/
def letGo (since : Nat) (reported : Bool) (upSince now : Nat) : Button × Option Press :=
  if now - upSince < debounceTime then (released since reported upSince, none)
  else (idle, if reported then none else some .short)

/-- Take a sample. -/
def sample (button : Button) (now : Nat) (down : Bool) : Button × Option Press :=
  match button, down with
  | idle, true => (held now false, none)
  | idle, false => (idle, none)
  | held since reported, true => hold since reported now
  | released since reported _, true => hold since reported now
  | held since reported, false => letGo since reported now now
  | released since reported upSince, false => letGo since reported upSince now

end Button
end Selector
end FlashSlots
