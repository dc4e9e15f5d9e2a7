import FlashSlots.Octets
import FlashSlots.Relay.Scanner
import FlashSlots.Relay.Stub

namespace FlashSlots

/-!
# The relay

The relay sits between the host and the board.  It forwards UART and JTAG
traffic and watches the board's UART for triggers.  When one arrives it takes
the JTAG pins over and replays the stub for that trigger.

While it replays, UART traffic is forwarded but not scanned, and JTAG traffic
is dropped.  A replay ends when the whole stub is out, when the pins fail, or
when it has taken too long.

Traffic is queued.  A step handles one event and then shifts out one chunk of
the replay.  What a step does to the outside is the list of its actions.
-/

namespace Relay

/-- Where octets come from. -/
inductive Port where
  | uartFromTarget
  | uartFromHost
  | jtagFromHost
  | jtagFromTarget
  deriving DecidableEq

/-- Octets that have arrived. -/
structure Event where
  port : Port
  bytes : List UInt8
  deriving DecidableEq

/-- A replay under way. -/
structure Replay where
  trigger : Trigger
  vector : ByteArray
  /-- How many octets the pins have taken. -/
  sent : Nat
  /-- When it started, in milliseconds. -/
  startedAt : Nat
  within : sent ≤ vector.size
  deriving DecidableEq

inductive Phase where
  | passThrough
  | replaying (replay : Replay)
  deriving DecidableEq

/-- Something that the relay reports. -/
inductive Warning where
  /-- There is no usable stub for the trigger. -/
  | unplayable (trigger : Trigger) (cause : StubError)
  | timedOut (trigger : Trigger) (sent total : Nat)
  | pinsFailed (trigger : Trigger) (cause : String)
  deriving DecidableEq

namespace Warning

def message : Warning -> String
  | unplayable trigger cause =>
    trigger.token ++ " received but cannot be replayed: " ++ cause.message
  | timedOut trigger sent total =>
    "Replay for " ++ trigger.token ++ " timed out after " ++ toString sent ++ " of " ++
      toString total ++ " bytes"
  | pinsFailed trigger cause => "Replay for " ++ trigger.token ++ " failed: " ++ cause

end Warning

/-- How many octets of a chunk the pins have taken, or why they failed. -/
abbrev PinsAnswer := Except String Nat

/-- What the pins do with a chunk. -/
abbrev Pins := ByteArray -> PinsAnswer

/-- What the relay does to the outside. -/
inductive Action where
  /-- Octets go to the other side. -/
  | forward (event : Event)
  /-- A chunk is offered to the pins. -/
  | drive (chunk : ByteArray) (answer : PinsAnswer)
  | warn (warning : Warning)

/-- A replay that takes this long is given up, in milliseconds. -/
def replayTimeout : Nat := 2000

/-- How many octets are offered to the pins at once. -/
def chunkSize : Nat := 512

end Relay

structure Relay where
  stubs : StubTable
  phase : Relay.Phase
  queue : List Relay.Event
  scanner : Relay.Scanner

namespace Relay

/-- A relay without traffic. -/
def new (stubs : StubTable) : Relay := ⟨stubs, .passThrough, [], .start⟩

def isReplaying (relay : Relay) : Bool :=
  match relay.phase with
  | .passThrough => false
  | .replaying _ => true

/-- Queue an event. -/
def push (relay : Relay) (event : Event) : Relay :=
  { relay with queue := relay.queue ++ [event] }

/-! ## Handling an event -/

def Replay.start (trigger : Trigger) (vector : ByteArray) (now : Nat) : Replay :=
  ⟨trigger, vector, 0, now, Nat.zero_le _⟩

/-- Scan octets of the board's UART.  A trigger without a stub is passed by
with a warning; once a replay starts, the rest is passed over. -/
def scan (relay : Relay) (now : Nat) : List UInt8 -> Relay × List Warning
  | [] => (relay, [])
  | byte :: rest =>
    match relay.scanner.push byte with
    | (scanner, none) => scan { relay with scanner := scanner } now rest
    | (scanner, some trigger) =>
      match relay.stubs.vector trigger with
      | .ok vector =>
        ({ relay with
            phase := .replaying (.start trigger vector now), scanner := scanner.skip rest }, [])
      | .error cause =>
        let (relay, warnings) := scan { relay with scanner := scanner } now rest
        (relay, .unplayable trigger cause :: warnings)

def handle (relay : Relay) (now : Nat) (event : Event) : Relay × List Action :=
  match event.port, relay.isReplaying with
  | .uartFromTarget, false =>
    let (relay, warnings) := relay.scan now event.bytes
    (relay, .forward event :: warnings.map Action.warn)
  | .uartFromTarget, true =>
    ({ relay with scanner := relay.scanner.skip event.bytes }, [.forward event])
  | .uartFromHost, _ => (relay, [.forward event])
  | .jtagFromHost, false => (relay, [.forward event])
  | .jtagFromHost, true => (relay, [])
  | .jtagFromTarget, false => (relay, [.forward event])
  | .jtagFromTarget, true => (relay, [])

/-! ## Replaying -/

namespace Replay

/-- The chunk that is due. -/
def chunk (replay : Replay) : ByteArray :=
  replay.vector.extract replay.sent (min (replay.sent + chunkSize) replay.vector.size)

theorem size_chunk (replay : Replay) :
    replay.chunk.size = min chunkSize (replay.vector.size - replay.sent) := by
  rw [chunk, ByteArray.size_extract]
  omega

/-- The replay after the pins have taken this many octets of the chunk.  They
cannot take more than there are. -/
def advance (replay : Replay) (taken : Nat) : Replay :=
  { replay with
    sent := replay.sent + min taken replay.chunk.size
    within := by
      have inside := replay.within
      rw [replay.size_chunk]
      omega }

/-- How many octets are left. -/
def remaining (replay : Replay) : Nat := replay.vector.size - replay.sent

end Replay

/-- What a step of a replay comes to. -/
structure ChunkResult where
  phase : Phase
  actions : List Action
  progressed : Bool

/-- Shift out one chunk, unless the time is over.  The pins may be busy; then
nothing happens. -/
def replayChunk (replay : Replay) (now : Nat) (pins : Pins) : ChunkResult :=
  if replayTimeout ≤ now - replay.startedAt then
    ⟨.passThrough, [.warn (.timedOut replay.trigger replay.sent replay.vector.size)], true⟩
  else
    match pins replay.chunk with
    | .error cause =>
      ⟨.passThrough, [.drive replay.chunk (.error cause), .warn (.pinsFailed replay.trigger cause)],
        true⟩
    | .ok taken =>
      let drive := Action.drive replay.chunk (.ok taken)
      if taken = 0 ∧ 0 < replay.remaining then ⟨.replaying replay, [drive], false⟩
      else if (replay.advance taken).remaining = 0 then ⟨.passThrough, [drive], true⟩
      else ⟨.replaying (replay.advance taken), [drive], true⟩

/-! ## Steps -/

/-- A relay after a step, and what the step did. -/
structure Stepped where
  relay : Relay
  actions : List Action
  /-- There was something to do. -/
  progressed : Bool

/-- Handle the first event of the queue, if there is one. -/
def handleNext (relay : Relay) (now : Nat) : Stepped :=
  match relay.queue with
  | [] => ⟨relay, [], false⟩
  | event :: rest =>
    let (relay, actions) := { relay with queue := rest }.handle now event
    ⟨relay, actions, true⟩

/-- Handle one event, then shift out one chunk. -/
def step (relay : Relay) (now : Nat) (pins : Pins) : Stepped :=
  let handled := relay.handleNext now
  match handled.relay.phase with
  | .passThrough => handled
  | .replaying replay =>
    let result := replayChunk replay now pins
    ⟨{ handled.relay with phase := result.phase }, handled.actions ++ result.actions,
      handled.progressed || result.progressed⟩

end Relay
end FlashSlots
