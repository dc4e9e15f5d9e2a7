import FlashSlots.Flash.Execution

namespace FlashSlots
namespace Flash

/-!
# The requests of an execution

A programmer can be made to keep a record of what it is asked for, next to its
own state, without any effect on what it does.  The record of an execution is
compared with the plan: it consists of the writes that belong to the mode, in
plan order, up to the first one that fails.

The lines of a dry run are compared with the record of an execution in which
no write fails.
-/

/-- What a programmer was asked for, with its answer. -/
inductive Request where
  | acquire (answer : Except Fault Unit)
  | write (mode : Mode) (kind : WriteKind) (address : UInt32) (payload : ByteArray)
      (answer : Except Fault Unit)
  | release (answer : Except Fault Unit)

namespace Request

/-- The request for a write of a plan. -/
def ofOp (mode : Mode) (answer : Except Fault Unit) (op : WriteOp) : Request :=
  .write mode op.kind op.address op.payload answer

end Request

variable {σ : Type}

namespace Programmer

/-- The programmer with a record of its requests, the latest one last. -/
def recording (programmer : Programmer σ) : Programmer (σ × List Request) where
  name := programmer.name
  acquire := fun (state, record) =>
    let (answer, next) := programmer.acquire state
    (answer, (next, record ++ [.acquire answer]))
  write := fun mode kind address payload (state, record) =>
    let (answer, next) := programmer.write mode kind address payload state
    (answer, (next, record ++ [.write mode kind address payload answer]))
  release := fun (state, record) =>
    let (answer, next) := programmer.release state
    (answer, (next, record ++ [.release answer]))
  describe := programmer.describe

/-- The programmer with every write reported as done. -/
def flawless (programmer : Programmer σ) : Programmer σ where
  name := programmer.name
  acquire := programmer.acquire
  write := fun mode kind address payload state =>
    (.ok (), (programmer.write mode kind address payload state).2)
  release := programmer.release
  describe := programmer.describe

end Programmer

/-- The requests of an execution. -/
def requests (programmer : Programmer σ) (mode : Mode) (plan : WritePlan) (state : σ) :
    List Request :=
  (execute programmer.recording mode plan (state, [])).2.2

/-! ## What is asked for -/

/-- In persistent mode every write is issued, otherwise only bitstreams. -/
def Mode.admits (mode : Mode) (op : WriteOp) : Bool := decide (mode = .persistent ∨ op.kind = .bit)

/-- The writes that belong to the mode. -/
def issued (mode : Mode) (ops : List WriteOp) : List WriteOp := ops.filter mode.admits

/-- The writes that do not belong to the mode. -/
def skipped (mode : Mode) (ops : List WriteOp) : List WriteOp :=
  ops.filter fun op => !mode.admits op

/-- The requests for the writes that belong to the mode, all of them done. -/
def granted (mode : Mode) (ops : List WriteOp) : List Request :=
  (issued mode ops).map (Request.ofOp mode (.ok ()))

/-- What may be asked for while these writes are executed, and what may come of
it. -/
inductive Course (mode : Mode) (ops : List WriteOp) :
    List Request -> Except TransportError Report -> Prop where
  /-- All writes that belong to the mode are done. -/
  | completed :
    Course mode ops (granted mode ops)
      (.ok ⟨(issued mode ops).map WriteOp.region, (skipped mode ops).map WriteOp.region⟩)
  /-- A write fails; nothing behind it is asked for. -/
  | failed (front : List WriteOp) (op : WriteOp) (behind : List WriteOp) (cause : String)
      (parts : ops = front ++ op :: behind) (admitted : mode.admits op = true) :
    Course mode ops (granted mode front ++ [.ofOp mode (.error (.failed cause)) op])
      (.error (.writeFailed op.region op.address cause))
  /-- A write takes too long; nothing behind it is asked for. -/
  | timedOut (front : List WriteOp) (op : WriteOp) (behind : List WriteOp) (after : Duration)
      (parts : ops = front ++ op :: behind) (admitted : mode.admits op = true) :
    Course mode ops (granted mode front ++ [.ofOp mode (.error (.timeout after)) op])
      (.error (.timeout op.region op.address after))

/-- What a line of a dry run says about the requests for a write. -/
inductive Foretold (programmer : Programmer σ) (mode : Mode) (op : WriteOp) :
    String -> List Request -> Prop where
  | written : Foretold programmer mode op (programmer.describe mode op) [.ofOp mode (.ok ()) op]
  | skipped :
    Foretold programmer mode op ("# skipped in " ++ mode.describe ++ " mode: " ++ op.describe) []

/-- These lines say for each write of a plan what is asked for if no write
fails. -/
structure Foretells (programmer : Programmer σ) (mode : Mode) (plan : WritePlan) (state : σ)
    (lines : List String) : Prop where
  length : lines.length = plan.ops.length
  line : forall {front op behind}, plan.ops = front ++ op :: behind ->
    ∃ line asked, lines[front.length]? = some line ∧ Foretold programmer mode op line asked ∧
      requests programmer.flawless mode plan state =
        granted mode front ++ asked ++ granted mode behind

theorem Mode.issues_eq_admits (mode : Mode) (op : WriteOp) : mode.issues op = mode.admits op := by
  cases mode with
  | persistent => rfl
  | volatile =>
    rw [Bool.eq_iff_iff, admits, decide_eq_true_eq]
    exact beq_iff_eq.trans (or_iff_right nofun).symm

theorem granted_append (mode : Mode) (front behind : List WriteOp) :
    granted mode (front ++ behind) = granted mode front ++ granted mode behind := by
  simp only [granted, issued, List.filter_append, List.map_append]

section Issued

variable {mode : Mode} {op : WriteOp} (front : List WriteOp)

theorem issued_snoc (admitted : mode.admits op = true) :
    issued mode (front ++ [op]) = issued mode front ++ [op] := by
  rw [issued, List.filter_append, List.filter_cons_of_pos admitted, List.filter_nil, issued]

theorem skipped_snoc (admitted : mode.admits op = true) :
    skipped mode (front ++ [op]) = skipped mode front := by
  simp only [skipped, List.filter_append, List.filter_cons, admitted, Bool.not_true,
    Bool.false_eq_true, if_false, List.filter_nil, List.append_nil]

theorem granted_snoc (admitted : mode.admits op = true) :
    granted mode (front ++ [op]) = granted mode front ++ [.ofOp mode (.ok ()) op] := by
  rw [granted, issued_snoc front admitted, List.map_append]
  rfl

theorem issued_snoc_of_not (refused : mode.admits op = false) :
    issued mode (front ++ [op]) = issued mode front := by
  simp only [issued, List.filter_append, List.filter_cons, refused, Bool.false_eq_true, if_false,
    List.filter_nil, List.append_nil]

theorem skipped_snoc_of_not (refused : mode.admits op = false) :
    skipped mode (front ++ [op]) = skipped mode front ++ [op] := by
  simp only [skipped, List.filter_append, List.filter_cons, refused, Bool.not_false, if_true,
    List.filter_nil]

theorem granted_snoc_of_not (refused : mode.admits op = false) :
    granted mode (front ++ [op]) = granted mode front := by
  rw [granted, issued_snoc_of_not front refused, granted]

end Issued

/-! ## One write of an execution -/

section Step

variable {programmer : Programmer σ} {mode : Mode} {total : Nat} {written skipped : List String}
  {op : WriteOp} {rest : List WriteOp} {state next : σ}

theorem issueFrom_of_done (admitted : mode.admits op = true)
    (done : programmer.write mode op.kind op.address op.payload state = (.ok (), next)) :
    issueFrom programmer mode total written skipped (op :: rest) state =
      issueFrom programmer mode total (op.region :: written) skipped rest next := by
  rw [issueFrom, mode.issues_eq_admits, if_pos admitted, done]

theorem issueFrom_of_fault {fault : Fault} (admitted : mode.admits op = true)
    (failed : programmer.write mode op.kind op.address op.payload state = (.error fault, next)) :
    issueFrom programmer mode total written skipped (op :: rest) state =
      (.error ⟨op, fault, written.length, total⟩, next) := by
  rw [issueFrom, mode.issues_eq_admits, if_pos admitted, failed]

theorem issueFrom_of_not (refused : mode.admits op = false) :
    issueFrom programmer mode total written skipped (op :: rest) state =
      issueFrom programmer mode total written (op.region :: skipped) rest state := by
  rw [issueFrom, mode.issues_eq_admits, if_neg (Bool.eq_false_iff.mp refused)]

/-- A write with a record adds its request. -/
theorem recording_write {kind : WriteKind} {address : UInt32} {payload : ByteArray}
    {answer : Except Fault Unit}
    (written : programmer.write mode kind address payload state = (answer, next))
    (record : List Request) :
    programmer.recording.write mode kind address payload (state, record) =
      (answer, (next, record ++ [.write mode kind address payload answer])) := by
  simp only [Programmer.recording, written]

end Step

/-! ## The record of an execution -/

section Recorded

variable (programmer : Programmer σ) (mode : Mode)

/-- Keeping a record changes neither the result nor the state. -/
theorem issueFrom_recording (total : Nat) (written skipped : List String) (ops : List WriteOp)
    (state : σ) (record : List Request) :
    (issueFrom programmer.recording mode total written skipped ops (state, record)).1 =
        (issueFrom programmer mode total written skipped ops state).1 ∧
      (issueFrom programmer.recording mode total written skipped ops (state, record)).2.1 =
        (issueFrom programmer mode total written skipped ops state).2 := by
  induction ops generalizing written skipped state record with
  | nil => exact ⟨rfl, rfl⟩
  | cons op rest ih =>
    cases admitted : mode.admits op with
    | true =>
      rcases call : programmer.write mode op.kind op.address op.payload state with
        ⟨⟨⟩ | ⟨⟨⟩⟩, next⟩
      · rw [issueFrom_of_fault admitted call,
          issueFrom_of_fault admitted (recording_write call record)]
        exact ⟨rfl, rfl⟩
      · rw [issueFrom_of_done admitted call,
          issueFrom_of_done admitted (recording_write call record)]
        exact ih ..
    | false =>
      rw [issueFrom_of_not admitted, issueFrom_of_not admitted]
      exact ih ..

/-- The names of writes as an execution collects them. -/
def collected (ops : List WriteOp) : List String := (ops.map WriteOp.region).reverse

theorem collected_snoc (ops : List WriteOp) (op : WriteOp) :
    collected (ops ++ [op]) = op.region :: collected ops := by
  rw [collected, List.map_append, List.reverse_append]
  rfl

/-- The rest of an execution that has come past `front` without a fault. -/
theorem course_of_issueFrom (total : Nat) (front ops : List WriteOp) (state : σ) :
    let run := issueFrom programmer.recording mode total (collected (issued mode front))
      (collected (skipped mode front)) ops (state, granted mode front)
    Course mode (front ++ ops) run.2.2 (run.1.mapError Abort.error) := by
  -- By induction on the writes that are left.  The record and the names so far are those of
  -- `front`, which takes the next write over at each step.
  induction ops generalizing front state with
  | nil =>
    dsimp only [issueFrom, collected]
    rw [List.reverse_reverse, List.reverse_reverse, List.append_nil]
    exact .completed
  | cons op rest ih =>
    cases admitted : mode.admits op with
    | true =>
      rcases call : programmer.write mode op.kind op.address op.payload state with
        ⟨⟨cause⟩ | ⟨⟨⟩⟩, next⟩
      · dsimp only
        rw [issueFrom_of_fault admitted (recording_write call _)]
        cases cause with
        | failed cause => exact .failed front op rest cause rfl admitted
        | timeout after => exact .timedOut front op rest after rfl admitted
      · have later := ih (front ++ [op]) next
        rw [issued_snoc front admitted, skipped_snoc front admitted, granted_snoc front admitted,
          collected_snoc, List.append_assoc] at later
        dsimp only
        rw [issueFrom_of_done admitted (recording_write call _)]
        exact later
    | false =>
      have later := ih (front ++ [op]) state
      rw [issued_snoc_of_not front admitted, skipped_snoc_of_not front admitted,
        granted_snoc_of_not front admitted, collected_snoc, List.append_assoc] at later
      dsimp only
      rw [issueFrom_of_not admitted]
      exact later

end Recorded

/-! ## The record of a dry run -/

section Flawless

variable (programmer : Programmer σ) (mode : Mode)

theorem issueFrom_flawless (total : Nat) (written skipped : List String) (ops : List WriteOp)
    (state : σ) :
    ∃ report, (issueFrom programmer.flawless mode total written skipped ops state).1 =
      .ok report := by
  induction ops generalizing written skipped state with
  | nil => exact ⟨_, rfl⟩
  | cons op rest ih =>
    cases admitted : mode.admits op with
    | true =>
      rw [issueFrom_of_done admitted rfl]
      exact ih ..
    | false =>
      rw [issueFrom_of_not admitted]
      exact ih ..

theorem course_of_execute (plan : WritePlan) (state : σ) :
    Course mode plan.ops (requests programmer mode plan state)
      ((execute programmer mode plan state).1.mapError Abort.error) := by
  have course := course_of_issueFrom programmer mode plan.ops.length [] plan.ops state
  have same := issueFrom_recording programmer mode plan.ops.length [] [] plan.ops state []
  rw [execute, ← same.1]
  exact course

/-- Without faults everything that belongs to the mode is asked for. -/
theorem requests_flawless (plan : WritePlan) (state : σ) :
    requests programmer.flawless mode plan state = granted mode plan.ops := by
  have course := course_of_execute programmer.flawless mode plan state
  rcases issueFrom_flawless programmer mode plan.ops.length [] [] plan.ops state with ⟨report, done⟩
  rw [execute, done] at course
  generalize requests programmer.flawless mode plan state = record at course
  cases course
  rfl

theorem foretells_dryRun (plan : WritePlan) (state : σ) :
    Foretells programmer mode plan state (dryRun programmer mode plan) where
  length := List.length_map ..
  line := by
    intro front op behind parts
    have position : plan.ops[front.length]? = some op := by
      rw [parts, List.getElem?_append_right (Nat.le_refl _), Nat.sub_self]
      rfl
    have record : requests programmer.flawless mode plan state =
        granted mode front ++ granted mode [op] ++ granted mode behind := by
      rw [requests_flawless, parts, List.append_cons, granted_append, granted_append]
    refine ⟨_, granted mode [op], (List.getElem?_map ..).trans (congrArg _ position), ?_, record⟩
    dsimp only
    rw [mode.issues_eq_admits]
    cases admitted : mode.admits op with
    | true =>
      rw [if_pos rfl, granted, issued, List.filter_cons_of_pos admitted]
      exact .written
    | false =>
      have refused : ¬ mode.admits op = true := Bool.eq_false_iff.mp admitted
      rw [if_neg Bool.false_ne_true, granted, issued, List.filter_cons_of_neg refused]
      exact .skipped

end Flawless

/-- An execution asks a programmer for the writes that belong to the mode, in
plan order and up to the first one that fails, and reports which ones were
written and skipped or which one failed.  A dry run asks for nothing: its lines
do not depend on what the programmer does, and each says whether its write
would be asked for. -/
theorem execute_and_dryRun (programmer : Programmer σ) (mode : Mode) (plan : WritePlan)
    (state : σ) :
    (execute programmer.recording mode plan (state, [])).1 =
        (execute programmer mode plan state).1 ∧
      (execute programmer.recording mode plan (state, [])).2.1 =
        (execute programmer mode plan state).2 ∧
      Course mode plan.ops (requests programmer mode plan state)
        ((execute programmer mode plan state).1.mapError Abort.error) ∧
      Foretells programmer mode plan state (dryRun programmer mode plan) ∧
      ∀ {τ : Type} (other : Programmer τ), other.describe = programmer.describe ->
        dryRun other mode plan = dryRun programmer mode plan := by
  have same := issueFrom_recording programmer mode plan.ops.length [] [] plan.ops state []
  refine ⟨same.1, same.2, course_of_execute programmer mode plan state,
    foretells_dryRun programmer mode plan state, ?_⟩
  intro τ other describes
  rw [dryRun, describes, dryRun]

end Flash
end FlashSlots
