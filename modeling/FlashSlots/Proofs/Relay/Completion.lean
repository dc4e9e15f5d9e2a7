import Mathlib.Logic.Relation
import FlashSlots.Proofs.Relay.Replays
import FlashSlots.Relay.Runner

namespace FlashSlots
namespace Relay

open Relation (ReflTransGen)

/-!
# The loop comes to its end

The surroundings of the loop decide what ends a wait.  They hand out the events
in the order in which they were sent, and they say that the channel is closed
only behind the last one.  The ticker may come at any time, but from one tick to
the next the clock has moved on.  Nothing else is assumed of the clock, and
nothing at all of the pins.

Under these conditions the loop always returns.  Every event and the end of the
channel come only once, and in between a replay can be found under way by only
so many ticks: each of them is later than the one before, and a tick that is not
before the deadline ends the replay.
-/

/-! ## Surroundings -/

/-- The loop, with the events that are still to come out of the channel and the
time of the latest tick. -/
structure Situation where
  loop : Loop
  coming : List Event
  ticked : Option Nat

/-- What the end of a wait leads to.  From tick to tick the clock moves on by
this pace at least, and it does not read less than the time of the tick. -/
inductive Next (pace : Nat) : Situation -> Situation -> Prop where
  | event {loop next : Loop} {event : Event} {rest : List Event} {ticked : Option Nat}
      {clock : Nat -> Nat} {pins : Nat -> Pins}
      (woken : loop.wake clock pins (.event event) = some next) :
      Next pace ⟨loop, event :: rest, ticked⟩ ⟨next, rest, ticked⟩
  | closed {loop next : Loop} {ticked : Option Nat} {clock : Nat -> Nat} {pins : Nat -> Pins}
      (woken : loop.wake clock pins .closed = some next) :
      Next pace ⟨loop, [], ticked⟩ ⟨next, [], ticked⟩
  | tick {loop next : Loop} {coming : List Event} {ticked : Option Nat} {time : Nat}
      {clock : Nat -> Nat} {pins : Nat -> Pins}
      (woken : loop.wake clock pins .tick = some next)
      (paced : ∀ last ∈ ticked, last + pace ≤ time) (onward : ∀ reading, time ≤ clock reading) :
      Next pace ⟨loop, coming, ticked⟩ ⟨next, coming, some time⟩

/-- Whatever the surroundings do, the loop comes to its end, and then it is as
described.  Until then there is always a way to go on. -/
inductive Returns (pace : Nat) (result : Loop -> Prop) : Situation -> Prop where
  | stopped {situation : Situation} (ended : situation.loop.stopped = true)
      (holds : result situation.loop) : Returns pace result situation
  | waits {situation : Situation} (running : situation.loop.stopped = false)
      (possible : ∃ next, Next pace situation next)
      (always : ∀ next, Next pace situation next -> Returns pace result next) :
      Returns pace result situation

theorem stopped_eq_true_iff {loop : Loop} :
    loop.stopped = true ↔ loop.listening = false ∧ loop.relay.isReplaying = false := by
  simp only [Loop.stopped, Bool.and_eq_true, Bool.not_eq_true']

theorem not_next_of_stopped {pace : Nat} {situation next : Situation}
    (ended : situation.loop.stopped = true) : ¬ Next pace situation next := by
  rcases stopped_eq_true_iff.mp ended with ⟨deaf, idle⟩
  intro made
  cases made with
  | event woken => cases deaf.symm.trans (Loop.wake_eq_some_iff.mp woken).1
  | closed woken => cases deaf.symm.trans (Loop.wake_eq_some_iff.mp woken).1
  | tick woken _ _ => cases idle.symm.trans (Loop.wake_eq_some_iff.mp woken).1

/-- What is said of every end holds of an end that was reached. -/
theorem Returns.of_path {pace : Nat} {result : Loop -> Prop} {first last : Situation}
    (returns : Returns pace result first) (path : ReflTransGen (Next pace) first last)
    (ended : last.loop.stopped = true) : result last.loop := by
  induction path using ReflTransGen.head_induction_on with
  | refl =>
    cases returns with
    | stopped _ holds => exact holds
    | waits running _ _ => cases ended.symm.trans running
  | head made _ ih =>
    cases returns with
    | stopped ended _ => exact absurd made (not_next_of_stopped ended)
    | waits _ _ always => exact ih (always _ made)

/-! ## UART traffic -/

section

variable {port : Port} (uart : port.isJtag = false)

include uart

/-- What a step forwards to a UART, and what is queued for it behind the step. -/
theorem bytesOn_step (relay : Relay) (now : Nat) (pins : Pins) :
    bytesOn port (forwards (relay.step now pins).actions) ++
        bytesOn port (relay.step now pins).relay.queue =
      bytesOn port relay.queue := by
  have forwarded : forwards (relay.step now pins).actions =
      relay.queue.head?.elim [] (passes relay) := Turn.forwards_actions ⟨relay, now, pins⟩
  rw [forwarded, queue_step]
  cases relay.queue with
  | nil => rfl
  | cons event rest =>
    change bytesOn port (passes relay event) ++ bytesOn port rest = bytesOn port ([event] ++ rest)
    rw [bytesOn_passes uart, bytesOn_append]

/-- A run forwards everything that was queued for a UART. -/
theorem bytesOn_runFrom (clock : Nat -> Nat) (pins : Nat -> Pins) (readings calls : Nat)
    (relay : Relay) :
    bytesOn port (forwards (runFrom clock pins readings calls relay).actions) =
      bytesOn port relay.queue := by
  fun_induction runFrom clock pins readings calls relay with
  | case1 readings calls relay stepped calls' progressed ran ih =>
    rw [forwards, List.filterMap_append, bytesOn_append]
    change bytesOn port (forwards stepped.actions) ++ bytesOn port (forwards ran.actions) = _
    rw [ih, bytesOn_step uart]
  | case2 readings calls relay stepped calls' idle =>
    have done := bytesOn_step uart relay (clock readings) (pins calls)
    rw [queue_step, queue_of_idle idle] at done
    change bytesOn port (forwards stepped.actions) = _
    rw [queue_of_idle idle]
    rw [← done]
    exact (List.append_nil _).symm

theorem bytesOn_settle (clock : Nat -> Nat) (pins : Nat -> Pins) (loop : Loop) :
    bytesOn port (forwards (loop.settle clock pins).actions) =
      bytesOn port (forwards loop.actions) ++ bytesOn port loop.relay.queue := by
  rw [← bytesOn_runFrom uart clock pins 0 loop.calls loop.relay, ← bytesOn_append, forwards,
    forwards, forwards, ← List.filterMap_append]
  rfl

end

/-! ## One wait -/

/-- The loop has done its work: the relay is at rest, and each UART got what was
sent to it, octet for octet. -/
structure Delivers (events : List Event) (loop : Loop) : Prop where
  phase : loop.relay.phase = .passThrough
  queue : loop.relay.queue = []
  uart : ∀ port, port.isJtag = false ->
    bytesOn port (forwards loop.actions) = bytesOn port events

/-- What holds whenever the loop waits. -/
structure Sound (events : List Event) (situation : Situation) : Prop where
  queue : situation.loop.relay.queue = []
  closed : situation.loop.listening = false -> situation.coming = []
  uart : ∀ port, port.isJtag = false ->
    bytesOn port (forwards situation.loop.actions) ++ bytesOn port situation.coming =
      bytesOn port events

namespace Sound

variable {events : List Event} {pace : Nat} {situation later : Situation}

theorem start (stubs : StubTable) (events : List Event) :
    Sound events ⟨.start (new stubs), events, none⟩ where
  queue := rfl
  closed := nofun
  uart := fun _ _ => rfl

theorem after_wait (sound : Sound events situation) (made : Next pace situation later) :
    Sound events later := by
  cases made with
  | @event loop _ event rest ticked clock pins woken =>
    rcases Loop.wake_eq_some_iff.mp woken with ⟨listening, same⟩
    subst same
    refine ⟨Loop.queue_settle _ _ _, ?_, ?_⟩
    · intro deaf
      cases deaf.symm.trans listening
    · intro port uart
      have queue : loop.relay.queue = [] := sound.queue
      rw [← sound.uart port uart]
      change bytesOn port (forwards (Loop.settle clock pins _).actions) ++ _ = _
      rw [bytesOn_settle uart, List.append_assoc]
      change _ ++ (bytesOn port (loop.relay.queue ++ [event]) ++ _) = _
      rw [queue, List.nil_append, ← bytesOn_append]
      rfl
  | closed woken =>
    rcases Loop.wake_eq_some_iff.mp woken with ⟨_, same⟩
    subst same
    exact ⟨sound.queue, fun _ => rfl, sound.uart⟩
  | @tick loop _ coming ticked time clock pins woken _ _ =>
    rcases Loop.wake_eq_some_iff.mp woken with ⟨_, same⟩
    subst same
    refine ⟨Loop.queue_settle _ _ _, sound.closed, ?_⟩
    intro port uart
    have queue : loop.relay.queue = [] := sound.queue
    have quiet : bytesOn port (forwards (loop.settle clock pins).actions) =
        bytesOn port (forwards loop.actions) := by
      rw [bytesOn_settle uart, queue]
      exact List.append_nil _
    exact (congrArg (· ++ bytesOn port coming) quiet).trans (sound.uart port uart)

theorem delivers (sound : Sound events situation) (ended : situation.loop.stopped = true) :
    Delivers events situation.loop := by
  rcases stopped_eq_true_iff.mp ended with ⟨deaf, idle⟩
  refine ⟨?_, sound.queue, ?_⟩
  · unfold isReplaying at idle
    split at idle
    · assumption
    · cases idle
  · intro port uart
    rw [← sound.uart port uart, sound.closed deaf]
    exact (List.append_nil _).symm

end Sound

/-- A loop that has not stopped waits for something that can happen. -/
theorem exists_next (pace : Nat) {situation : Situation}
    (running : situation.loop.stopped = false) : ∃ next, Next pace situation next := by
  rcases situation with ⟨loop, coming, ticked⟩
  let pins : Nat -> Pins := fun _ _ => .ok 0
  cases listening : loop.listening with
  | true =>
    cases coming with
    | nil => exact ⟨_, .closed (Loop.wake_of_awaits id pins _ listening)⟩
    | cons event rest => exact ⟨_, .event (Loop.wake_of_awaits id pins _ listening)⟩
  | false =>
    have busy : loop.relay.isReplaying = true := by
      simpa only [Loop.stopped, listening, Bool.not_false, Bool.true_and,
        Bool.not_eq_false'] using running
    -- Only the ticker is left, and it may come as early as its pace allows.
    let time := ticked.elim 0 (· + pace)
    refine ⟨_, .tick (Loop.wake_of_awaits (fun _ => time) pins _ busy) ?_ fun _ => Nat.le_refl time⟩
    rintro last same
    cases same
    exact Nat.le_refl _

/-! ## The end -/

/-- What can still come out of the channel, counting its end. -/
def Situation.remaining (situation : Situation) : Nat :=
  situation.coming.length + situation.loop.listening.toNat

/-- How long the ticker can still be waited for. -/
def Situation.patience (situation : Situation) : Nat :=
  match situation.loop.relay.deadline?, situation.ticked with
  | none, _ => 0
  | some deadline, none => deadline + 2
  | some deadline, some last => deadline - last + 1

/-- A tick comes nearer to the deadline of the replay, or ends it. -/
theorem patience_tick {pace : Nat} (forward : 0 < pace) {loop : Loop} {coming : List Event}
    {ticked : Option Nat} {time : Nat} {clock : Nat -> Nat} {pins : Nat -> Pins}
    (busy : loop.relay.isReplaying = true) (empty : loop.relay.queue = [])
    (paced : ∀ last ∈ ticked, last + pace ≤ time) (onward : ∀ reading, time ≤ clock reading) :
    Situation.patience ⟨loop.settle clock pins, coming, some time⟩ <
      Situation.patience ⟨loop, coming, ticked⟩ := by
  rcases exists_deadline busy with ⟨deadline, running⟩
  unfold Situation.patience
  rw [running]
  cases goesOn : (loop.settle clock pins).relay.deadline? with
  | none =>
    cases ticked with
    | none => exact Nat.succ_pos _
    | some last => exact Nat.succ_pos _
  | some later =>
    -- With an empty queue no other replay has started: it is still the same deadline.
    rcases Loop.deadline_settle goesOn with ⟨⟨reading, early⟩, kept⟩
    cases running.symm.trans (kept empty)
    have before := Nat.lt_of_le_of_lt (onward reading) early
    cases ticked with
    | none =>
      dsimp only
      omega
    | some last =>
      have later := paced last rfl
      dsimp only
      omega

/-- Every wait brings the loop nearer to its end. -/
theorem Sound.decreases {events : List Event} {pace : Nat} (forward : 0 < pace)
    {situation next : Situation} (sound : Sound events situation)
    (made : Next pace situation next) :
    Prod.Lex (· < ·) (· < ·) (next.remaining, next.patience)
      (situation.remaining, situation.patience) := by
  cases made with
  | event woken =>
    -- A replay may start here and have more patience than the one before.
    rcases Loop.wake_eq_some_iff.mp woken with ⟨_, same⟩
    subst same
    exact .left _ _ (Nat.add_lt_add_right (Nat.lt_succ_self _) _)
  | @closed loop _ _ _ _ woken =>
    rcases Loop.wake_eq_some_iff.mp woken with ⟨awaited, same⟩
    subst same
    have listening : loop.listening = true := awaited
    refine .left _ _ ?_
    rw [Situation.remaining, Situation.remaining, listening]
    exact Nat.one_pos
  | tick woken paced onward =>
    rcases Loop.wake_eq_some_iff.mp woken with ⟨busy, same⟩
    subst same
    exact .right _ (patience_tick forward busy sound.queue paced onward)

/-- From whatever it has come to, the loop gets to its end. -/
theorem returns_of_sound {events : List Event} {pace : Nat} (forward : 0 < pace)
    (situation : Situation) (sound : Sound events situation) :
    Returns pace (Delivers events) situation := by
  cases running : situation.loop.stopped with
  | true => exact .stopped running (sound.delivers running)
  | false =>
    refine .waits running (exists_next pace running) ?_
    intro later made
    exact returns_of_sound forward later (sound.after_wait made)
  termination_by (situation.remaining, situation.patience)
  decreasing_by exact sound.decreases forward made

/-! ## The loop in time -/

namespace Runner

/-- However late a tick comes, this long passes until the next one. -/
def tickPace : Nat := tickInterval - tickTolerance

/-- The ticker is not due before its pace allows it. -/
def Paced (runner : Runner) (ticked : Option Nat) : Prop :=
  ∀ last ∈ ticked, last + tickPace ≤ runner.due

/-- What happens to the runner while these events come in may happen to its
loop. -/
def Leads (runner : Runner) (coming : List Event) (result : Runner) (rest : List Event) : Prop :=
  ∀ ticked, runner.Paced ticked -> ∃ latest, result.Paced latest ∧
    ReflTransGen (Next tickPace) ⟨runner.toLoop, coming, ticked⟩ ⟨result.toLoop, rest, latest⟩

theorem Leads.refl (runner : Runner) (coming : List Event) :
    runner.Leads coming runner coming := fun ticked paced => ⟨ticked, paced, .refl⟩

theorem Leads.trans {first second third : Runner} {all later rest : List Event}
    (front : first.Leads all second later) (back : second.Leads later third rest) :
    first.Leads all third rest := by
  intro ticked paced
  rcases front ticked paced with ⟨between, paced, before⟩
  rcases back between paced with ⟨latest, paced, after⟩
  exact ⟨latest, paced, before.trans after⟩

theorem tickTime_add_le (runner : Runner) : runner.tickTime + tickPace ≤ runner.nextDue := by
  unfold nextDue tickPace tickInterval tickTolerance
  split <;> omega

theorem leads_ticked {runner : Runner} {next : Loop} {pins : Nat -> Pins}
    (woken : runner.wake (fun _ => runner.tickTime) pins .tick = some next)
    (coming : List Event) : runner.Leads coming (runner.ticked next) coming := by
  intro ticked paced
  refine ⟨some runner.tickTime, ?_, .single (.tick woken ?_ fun _ => Nat.le_refl _)⟩
  · rintro last same
    cases same
    exact runner.tickTime_add_le
  · intro last same
    exact (paced last same).trans (Nat.le_max_right _ _)

theorem leads_tickUntil (pins : Nat -> Pins) (time : Option Nat) (runner : Runner)
    (coming : List Event) : runner.Leads coming (tickUntil pins time runner) coming := by
  fun_induction tickUntil pins time runner with
  | case1 runner _ _ => exact .refl _ _
  | case2 runner _ next woken ih => exact (leads_ticked woken coming).trans ih
  | case3 runner _ => exact .refl _ _

theorem listening_tickUntil (pins : Nat -> Pins) (time : Option Nat) (runner : Runner) :
    (tickUntil pins time runner).listening = runner.listening := by
  fun_induction tickUntil pins time runner with
  | case1 runner _ _ => rfl
  | case2 runner _ next woken ih =>
    rw [ih, ticked, (Loop.wake_eq_some_iff.mp woken).2]
    rfl
  | case3 runner _ => rfl

/-- Without a limit the ticker is waited for until the replay is over. -/
theorem isReplaying_tickUntil (pins : Nat -> Pins) (runner : Runner) :
    (tickUntil pins none runner).relay.isReplaying = false := by
  generalize limit : (none : Option Nat) = time
  fun_induction tickUntil pins time runner with
  | case1 runner _ asleep =>
    cases busy : runner.relay.isReplaying with
    | false => rfl
    | true => cases asleep.symm.trans (Loop.wake_of_awaits _ pins .tick busy)
  | case2 runner _ next woken ih => exact ih
  | case3 runner late =>
    subst limit
    exact absurd rfl late

theorem wakeAt_of_awaits (pins : Nat -> Pins) (time : Nat) {wake : Wake} {runner : Runner}
    (awaited : runner.awaits wake = true) :
    wakeAt pins time wake runner = ⟨runner.after (fun _ => time) pins wake, time, runner.due⟩ := by
  rw [wakeAt, Loop.wake_of_awaits _ pins wake awaited]

variable {runner : Runner} (listening : runner.listening = true)

include listening

theorem leads_receive (pins : Nat -> Pins) (time : Nat) (event : Event) (rest : List Event) :
    runner.Leads (event :: rest) (receive pins time event runner) rest ∧
      (receive pins time event runner).listening = true := by
  let waited := tickUntil pins (some time) runner
  let clock : Nat -> Nat := fun _ => max waited.now time
  have still : waited.awaits (.event event) = true :=
    (listening_tickUntil pins (some time) runner).trans listening
  have same : receive pins time event runner =
      ⟨waited.after clock pins (.event event), max waited.now time, waited.due⟩ :=
    wakeAt_of_awaits pins _ still
  rw [same]
  refine ⟨(leads_tickUntil pins (some time) runner _).trans ?_, still⟩
  intro ticked paced
  exact ⟨ticked, paced, .single (.event (Loop.wake_of_awaits clock pins _ still))⟩

/-- All events come in, and the runner stops. -/
theorem leads_feed (pins : Nat -> Pins) (time : Nat) (delayed : List (Nat × Event)) :
    runner.Leads (delayed.map Prod.snd) (feed pins time delayed runner) [] ∧
      (feed pins time delayed runner).stopped = true := by
  induction delayed generalizing time runner with
  | nil =>
    let clock : Nat -> Nat := fun _ => runner.now
    let deaf : Runner := ⟨runner.after clock pins .closed, runner.now, runner.due⟩
    have same : wakeAt pins runner.now .closed runner = deaf := wakeAt_of_awaits pins _ listening
    rw [feed, same]
    constructor
    · refine Leads.trans ?_ (leads_tickUntil pins none deaf [])
      intro ticked paced
      exact ⟨ticked, paced, .single (.closed (Loop.wake_of_awaits clock pins _ listening))⟩
    · exact stopped_eq_true_iff.mpr
        ⟨listening_tickUntil pins none deaf, isReplaying_tickUntil pins deaf⟩
  | cons entry rest ih =>
    rcases entry with ⟨delay, event⟩
    rcases leads_receive listening pins (time + delay) event (rest.map Prod.snd) with
      ⟨front, still⟩
    rcases ih still (time + delay) with ⟨back, stopped⟩
    exact ⟨front.trans back, stopped⟩

end Runner

/-- The loop comes to its end and has done its work then, whatever the stubs,
the events and the pins are.  It waits for events and for ticks in any order;
each tick, but for the first, is only assumed to come some milliseconds after
the one before.  This holds of the ticker in particular, whose ticks are ten
milliseconds apart or, behind one that came a little late, at least five: so
the run in time stops and has done its work, too, after any delays. -/
theorem loop_delivers (stubs : StubTable) (events : List Event) {pace : Nat} (forward : 0 < pace) :
    Returns pace (Delivers events) ⟨.start (new stubs), events, none⟩ ∧
      ∀ pins delayed, delayed.map Prod.snd = events ->
        (Runner.run pins delayed (new stubs)).stopped = true ∧
          Delivers events (Runner.run pins delayed (new stubs)).toLoop := by
  refine ⟨returns_of_sound forward _ (.start stubs events), ?_⟩
  rintro pins delayed same
  subst same
  let start := Runner.start (new stubs)
  have listening : start.listening = true := rfl
  rcases Runner.leads_feed listening pins 0 delayed with ⟨leads, stopped⟩
  rcases leads none nofun with ⟨latest, _, path⟩
  have returns := returns_of_sound (by decide : 0 < Runner.tickPace) _
    (.start stubs (delayed.map Prod.snd))
  exact ⟨stopped, returns.of_path path stopped⟩

/-- The pins never take an octet of the stub that the target asks for. -/
theorem stalledLoop_delivers :
    let event : Event := ⟨.uartFromTarget, "BOOTLOADER\n".toUTF8.toList⟩
    let ran := Runner.run (fun _ _ => .ok 0) [(3, event)] (new shortStubs)
    0 < tickInterval ∧ [(3, event)].map Prod.snd = [event] ∧
      Returns tickInterval (Delivers [event]) ⟨.start (new shortStubs), [event], none⟩ ∧
      ran.stopped = true ∧ Delivers [event] ran.toLoop := by
  intro event ran
  have forward : 0 < tickInterval := by decide
  rcases loop_delivers shortStubs [event] forward with ⟨returns, inTime⟩
  exact ⟨forward, rfl, returns, inTime (fun _ _ => .ok 0) [(3, event)] rfl⟩

end Relay
end FlashSlots
