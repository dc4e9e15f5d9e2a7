import FlashSlots.Duration
import FlashSlots.Package.WriteOp

namespace FlashSlots

/-!
# Programmers

A programmer puts octets into flash, or loads a bitstream into the
configuration memory of the FPGA, which a power cycle clears.  It is opened
before the first write and closed after the last one; some programmers commit
their writes only then.

A programmer acts on a state of its own, for instance a chip image with the
files around it.  Each action gives its result next to the state that it
leaves, so that a failed action may have had an effect.
-/

namespace Flash

/-- Where a write goes. -/
inductive Mode where
  /-- Into flash. -/
  | persistent
  /-- Into configuration memory. -/
  | volatile
  deriving DecidableEq

namespace Mode

/-- The name of a mode in messages. -/
def describe : Mode -> String
  | persistent => "Persistent"
  | volatile => "Volatile"

end Mode

/-- Why an action of a programmer failed. -/
inductive Fault where
  | failed (cause : String)
  | timeout (after : Duration)
  deriving DecidableEq

namespace Fault

def message : Fault -> String
  | failed cause => cause
  | timeout after => "timed out after " ++ after.describe

end Fault

/-- The actions of a programmer with states `σ`. -/
structure Programmer (σ : Type) where
  name : String
  acquire : σ -> Except Fault Unit × σ
  write : Mode -> WriteKind -> UInt32 -> ByteArray -> σ -> Except Fault Unit × σ
  release : σ -> Except Fault Unit × σ
  /-- What a write would do. -/
  describe : Mode -> WriteOp -> String

end Flash
end FlashSlots
