import FlashSlots.Trigger

namespace FlashSlots
namespace Relay

/-!
# Finding triggers in a stream

The scanner collects the octets of the current line.  It keeps no more of them
than a trigger can have, with a carriage return on either side; a longer line
is no trigger.  A line of which some octets were passed over is no trigger
either, and the next line starts afresh.
-/

/-- The octet that ends a line. -/
def newline : UInt8 := 0x0A

def carriageReturn : UInt8 := 0x0D

structure Scanner where
  line : List UInt8
  /-- The current line is longer than what is kept of it, or not all of it was
  seen. -/
  overflowed : Bool
  deriving DecidableEq

namespace Scanner

/-- At the start of a line. -/
def start : Scanner := ⟨[], false⟩

/-- How much of a line is kept. -/
def capacity : Nat := Trigger.maxTokenLength + 2

/-- A line without a carriage return in front. -/
def stripFront : List UInt8 -> List UInt8
  | [] => []
  | byte :: rest => if byte = carriageReturn then rest else byte :: rest

/-- A line without a carriage return at the end. -/
def stripBack (line : List UInt8) : List UInt8 :=
  if line.getLast? = some carriageReturn then line.dropLast else line

/-- The trigger that the collected line is. -/
def trigger? (scanner : Scanner) : Option Trigger :=
  if scanner.overflowed then none else Trigger.parse? (stripBack (stripFront scanner.line))

/-- Take an octet.  At the end of a line its trigger stands next to the new
state. -/
def push (scanner : Scanner) (byte : UInt8) : Scanner × Option Trigger :=
  if byte = newline then (start, scanner.trigger?)
  else if scanner.line.length < capacity then
    ({ scanner with line := scanner.line ++ [byte] }, none)
  else ({ scanner with overflowed := true }, none)

/-- Pass over octets. -/
def skip (scanner : Scanner) (bytes : List UInt8) : Scanner :=
  match bytes.getLast? with
  | none => scanner
  | some last => ⟨[], last != newline⟩

end Scanner
end Relay
end FlashSlots
