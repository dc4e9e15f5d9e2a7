import FlashSlots.Flash.Session

namespace FlashSlots
namespace Flash

/-!
# Sharing the transport

Several callers, each with a programmer of its own, share one transport.  A
write lock lets at most one of them in.  A caller that gets the lock opens its
programmer; if that fails, it has no session and gives the lock back.  A session
keeps the lock until it is dropped, and dropping it closes the programmer unless
finishing has closed it before.

What a caller does is cut into moves between which the others may make theirs.
`Hall.step` says for each move whether it can be made now; a move that has to
wait for the lock cannot.  What the callers do is recorded.
-/

/-- Where a caller stands. -/
inductive Stage where
  /-- It waits for the lock. -/
  | waiting
  /-- It has the lock, and its programmer has to be opened. -/
  | opening
  /-- It has a session; its programmer is open, or it was closed by finishing. -/
  | session (closed : Bool)
  /-- It has no session, and the lock has to be given back. -/
  | leaving
  /-- It has nothing to do any more. -/
  | gone
  deriving DecidableEq

/-- Someone who wants to write. -/
structure Caller (σ : Type) where
  programmer : Programmer σ
  state : σ
  stage : Stage

/-- What a caller does next. -/
inductive Move where
  /-- Take the lock. -/
  | lock
  /-- Open the programmer. -/
  | acquire
  | write (mode : Mode) (kind : WriteKind) (address : UInt32) (payload : ByteArray)
  /-- Close the programmer, with a report.  The session is dropped next. -/
  | finish
  /-- Give the session up; a programmer that is still open is closed. -/
  | drop
  /-- Give the lock back. -/
  | unlock

/-- What a move did. -/
inductive Call where
  | locked
  | acquired (result : Except TransportError Unit)
  | written (result : Except Fault Unit)
  | released (result : Except TransportError Unit)
  | unlocked

/-- The callers, and which of them has the lock. -/
structure Hall (σ : Type) where
  callers : List (Caller σ)
  holder : Option Nat

/-- Moves in the order in which they are made, each with its caller. -/
abbrev Schedule := List (Nat × Move)

/-- Calls in the order in which they happen, each with its caller. -/
abbrev CallRecord := List (Nat × Call)

variable {σ : Type}

namespace Caller

/-- A caller that does not have the lock yet. -/
def new (programmer : Programmer σ) (state : σ) : Caller σ := ⟨programmer, state, .waiting⟩

/-- The caller after an attempt to open its programmer. -/
def acquire (caller : Caller σ) : Caller σ × Call :=
  match Session.acquire caller.programmer caller.state with
  | (.ok (), next) => ({ caller with state := next, stage := .session false }, .acquired (.ok ()))
  | (.error cause, next) =>
    ({ caller with state := next, stage := .leaving }, .acquired (.error cause))

def write (caller : Caller σ) (mode : Mode) (kind : WriteKind) (address : UInt32)
    (payload : ByteArray) : Caller σ × Call :=
  let (result, next) := caller.programmer.write mode kind address payload caller.state
  ({ caller with state := next }, .written result)

/-- The caller at this stage after its programmer was closed. -/
def close (caller : Caller σ) (stage : Stage) : Caller σ × Call :=
  let (result, next) := Session.finish caller.programmer caller.state
  ({ caller with state := next, stage := stage }, .released result)

/-- The caller after a move, if the move belongs to its stage, and what it did.
Dropping a session that was finished does nothing. -/
def advance (caller : Caller σ) (move : Move) : Option (Caller σ × Option Call) :=
  match caller.stage, move with
  | .waiting, .lock => some ({ caller with stage := .opening }, some .locked)
  | .opening, .acquire => some (caller.acquire.map id some)
  | .session false, .write mode kind address payload =>
    some ((caller.write mode kind address payload).map id some)
  | .session false, .finish => some ((caller.close (.session true)).map id some)
  | .session false, .drop => some ((caller.close .leaving).map id some)
  | .session true, .drop => some ({ caller with stage := .leaving }, none)
  | .leaving, .unlock => some ({ caller with stage := .gone }, some .unlocked)
  | _, _ => none

end Caller

/-- Who has the lock after a move, if the lock admits it. -/
def Move.holderAfter (holder : Option Nat) (who : Nat) : Move -> Option (Option Nat)
  | .lock => if holder = none then some (some who) else none
  | .unlock => some none
  | _ => some holder

namespace Hall

/-- Everyone waits. -/
def gather (programmers : List (Programmer σ × σ)) : Hall σ :=
  ⟨programmers.map fun (programmer, state) => .new programmer state, none⟩

/-- Make a move, if it can be made now. -/
def step (hall : Hall σ) (who : Nat) (move : Move) : Option (Hall σ × Option Call) := do
  let caller <- hall.callers[who]?
  let holder <- move.holderAfter hall.holder who
  let (next, call) <- caller.advance move
  return (⟨hall.callers.set who next, holder⟩, call)

/-- Make moves one after the other. -/
def run (hall : Hall σ) : Schedule -> Option (Hall σ × CallRecord)
  | [] => some (hall, [])
  | (who, move) :: rest => do
    let (next, call) <- hall.step who move
    let (last, calls) <- next.run rest
    return (last, call.toList.map (fun call => (who, call)) ++ calls)

end Hall
end Flash
end FlashSlots
