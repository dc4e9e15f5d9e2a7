import FlashSlots.Layout
import FlashSlots.Octets
import FlashSlots.Text.Hex

namespace FlashSlots

open Layout (Span)

/-!
# Writes

A write puts a payload at a flash address.  It knows the region that it is
for and whether the payload is a bitstream.

`WriteOp.range?` has no value if the payload runs past the 32-bit addresses,
and `WriteOp.pageSpan?` has none if it runs past the end of the chip.
-/

/-- How a programmer treats a payload. -/
inductive WriteKind where
  /-- A configuration bitstream. -/
  | bit
  /-- Any other octets. -/
  | raw
  deriving DecidableEq

namespace WriteKind

def describe : WriteKind -> String
  | bit => "bit"
  | raw => "raw"

end WriteKind

structure WriteOp where
  region : String
  kind : WriteKind
  address : UInt32
  payload : ByteArray
  deriving DecidableEq

namespace WriteOp

/-- The addresses that are written. -/
def range? (op : WriteOp) : Option Span := do
  let length <- Word.ofNat? op.payload.size
  let stop <- Word.add? op.address length
  return ⟨op.address, stop⟩

/-- The pages that are touched. -/
def pageSpan? (op : WriteOp) : Option Span := do
  let range <- op.range?
  if range.stop.toNat ≤ Layout.flashSize then
    Layout.pageSpan? range.start (range.stop - range.start)
  else none

/-- The line that shows a write to the user. -/
def describe (op : WriteOp) : String :=
  Text.address op.address.toNat ++ " " ++ op.kind.describe ++ " " ++ op.region ++
    " (" ++ toString op.payload.size ++ " bytes)"

theorem range?_eq_some_iff {op : WriteOp} {range : Span} :
    op.range? = some range ↔
      range.start = op.address ∧ range.stop.toNat = op.address.toNat + op.payload.size := by
  rcases range with ⟨start, stop⟩
  unfold range?
  cases length : Word.ofNat? op.payload.size with
  | none =>
    have bounded := Word.toNat_lt_limit stop
    have large := Word.ofNat?_eq_none_iff.mp length
    simp only [Option.bind_eq_bind, Option.bind_none, reduceCtorEq, false_iff, not_and]
    omega
  | some word =>
    have size := Word.ofNat?_eq_some_iff.mp length
    cases sum : Word.add? op.address word with
    | none =>
      have bounded := Word.toNat_lt_limit stop
      have large := Word.add?_eq_none_iff.mp sum
      simp only [Option.bind_eq_bind, Option.bind_some, sum, Option.bind_none, reduceCtorEq,
        false_iff, not_and]
      omega
    | some last =>
      have total := Word.add?_eq_some_iff.mp sum
      simp only [Option.bind_eq_bind, Option.bind_some, sum, Option.pure_def, Option.some.injEq,
        Span.mk.injEq]
      rw [← UInt32.toNat_inj (a := last), total, size]
      constructor
      · intro same
        exact ⟨same.1.symm, same.2.symm⟩
      · intro same
        exact ⟨same.1.symm, same.2.symm⟩

end WriteOp
end FlashSlots
