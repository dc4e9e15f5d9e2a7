import FlashSlots.Relay.Run

namespace FlashSlots
namespace Relay

/-!
# The loop around the relay

Events come out of a channel one by one.  Each of them is queued, and the relay
runs until there is nothing to do.  A replay whose pins are busy makes no
progress by itself; so while one is under way a ticker wakes the relay up, too.
Once the senders are gone the ticker alone goes on, until the replay is over.

The loop only waits.  What ends a wait, and when, is up to its surroundings.
-/

/-- What ends a wait. -/
inductive Wake where
  /-- An event has come out of the channel. -/
  | event (event : Event)
  /-- The senders are gone, and the channel is empty. -/
  | closed
  | tick

structure Loop where
  relay : Relay
  /-- The channel has not been found closed. -/
  listening : Bool
  /-- How often the pins were called. -/
  calls : Nat
  /-- Everything the relay did so far. -/
  actions : List Action

namespace Loop

def start (relay : Relay) : Loop := ⟨relay, true, 0, []⟩

/-- Run the relay until there is nothing to do. -/
def settle (clock : Nat -> Nat) (pins : Nat -> Pins) (loop : Loop) : Loop :=
  let ran := runFrom clock pins 0 loop.calls loop.relay
  { loop with relay := ran.relay, calls := ran.calls, actions := loop.actions ++ ran.actions }

/-- The channel is closed, and no replay is under way. -/
def stopped (loop : Loop) : Bool := !loop.listening && !loop.relay.isReplaying

/-- A wait can end in this way.  Events are only waited for until the channel
is closed, and the ticker only during a replay. -/
def awaits (loop : Loop) : Wake -> Bool
  | .event _ => loop.listening
  | .closed => loop.listening
  | .tick => loop.relay.isReplaying

/-- What the end of a wait leads to. -/
def after (clock : Nat -> Nat) (pins : Nat -> Pins) (loop : Loop) : Wake -> Loop
  | .event event => settle clock pins { loop with relay := loop.relay.push event }
  | .closed => { loop with listening := false }
  | .tick => settle clock pins loop

/-- The loop after a wait. -/
def wake (clock : Nat -> Nat) (pins : Nat -> Pins) (loop : Loop) (wake : Wake) : Option Loop :=
  if loop.awaits wake then some (loop.after clock pins wake) else none

theorem wake_of_awaits (clock : Nat -> Nat) (pins : Nat -> Pins) {loop : Loop} (wake : Wake)
    (awaited : loop.awaits wake = true) :
    loop.wake clock pins wake = some (loop.after clock pins wake) := if_pos awaited

theorem wake_eq_some_iff {clock : Nat -> Nat} {pins : Nat -> Pins} {loop next : Loop}
    {wake : Wake} :
    loop.wake clock pins wake = some next ↔
      loop.awaits wake = true ∧ next = loop.after clock pins wake := by
  unfold Loop.wake
  split
  · next awaited =>
    constructor
    · intro same
      exact ⟨awaited, (Option.some.inj same).symm⟩
    · rintro ⟨_, same⟩
      rw [same]
  · next other =>
    constructor
    · intro impossible
      cases impossible
    · rintro ⟨awaited, _⟩
      exact absurd awaited other

theorem queue_settle (clock : Nat -> Nat) (pins : Nat -> Pins) (loop : Loop) :
    (loop.settle clock pins).relay.queue = [] :=
  queue_runFrom clock pins 0 loop.calls loop.relay

/-- If a replay is under way after the relay has run, the clock has read less
than its deadline. -/
theorem deadline_settle {clock : Nat -> Nat} {pins : Nat -> Pins} {loop : Loop} {deadline : Nat}
    (goesOn : (loop.settle clock pins).relay.deadline? = some deadline) :
    (∃ reading, clock reading < deadline) ∧
      (loop.relay.queue = [] -> loop.relay.deadline? = some deadline) :=
  deadline_runFrom goesOn

end Loop
end Relay
end FlashSlots
