import FlashSlots.Flash.Session
import FlashSlots.Proofs.FileTree.Writing
import FlashSlots.Proofs.Flash.Interruption

namespace FlashSlots

/-!
# Sessions with an image file

A session keeps the contents of the chip in a file, then in memory, then in the
file again.  Between two sessions the file is all that there is, and seen from
there a session does what programming the chip itself would have done: the
writes up to the first one that runs past the end of the chip, whether the
session was completed or aborted at that write.  In volatile mode the file only
goes back and forth; the last bitstream is what the programmer ends up with.
-/

namespace WriteOp

/-- The writes before the first one that runs past the end of the chip. -/
def beforePastEnd (ops : List WriteOp) : List WriteOp := ops.takeWhile fun op => op.OnChip

/-- The first write that runs past the end of the chip. -/
def firstPastEnd? (ops : List WriteOp) : Option WriteOp := ops.find? fun op => ¬ op.OnChip

/-- The payload of the last bitstream among the writes. -/
def lastBitstream? (ops : List WriteOp) : Option ByteArray :=
  ((ops.filter fun op => op.kind == .bit).getLast?).map WriteOp.payload

theorem beforePastEnd_cons {op : WriteOp} (onChip : op.OnChip) (ops : List WriteOp) :
    beforePastEnd (op :: ops) = op :: beforePastEnd ops :=
  List.takeWhile_cons_of_pos (decide_eq_true onChip)

theorem beforePastEnd_cons_of_not {op : WriteOp} (past : ¬ op.OnChip) (ops : List WriteOp) :
    beforePastEnd (op :: ops) = [] :=
  List.takeWhile_cons_of_neg (by simpa using past)

theorem firstPastEnd?_cons {op : WriteOp} (onChip : op.OnChip) (ops : List WriteOp) :
    firstPastEnd? (op :: ops) = firstPastEnd? ops :=
  List.find?_cons_of_neg (by simpa using onChip)

theorem firstPastEnd?_cons_of_not {op : WriteOp} (past : ¬ op.OnChip) (ops : List WriteOp) :
    firstPastEnd? (op :: ops) = some op :=
  List.find?_cons_of_pos (by simpa using past)

theorem lastBitstream?_cons {op : WriteOp} (bit : op.kind = .bit) (ops : List WriteOp) :
    lastBitstream? (op :: ops) = (lastBitstream? ops).or (some op.payload) := by
  have first : (op.kind == .bit) = true := beq_iff_eq.mpr bit
  rw [lastBitstream?, List.filter_cons, if_pos first, lastBitstream?]
  cases rest : ops.filter fun op => op.kind == .bit with
  | nil => rfl
  | cons next others =>
    rw [List.getLast?_cons_cons]
    rfl

theorem lastBitstream?_cons_of_ne {op : WriteOp} (other : op.kind ≠ .bit) (ops : List WriteOp) :
    lastBitstream? (op :: ops) = lastBitstream? ops := by
  have first : ¬ (op.kind == .bit) = true := fun same => other (beq_iff_eq.mp same)
  rw [lastBitstream?, List.filter_cons, if_neg first, lastBitstream?]

end WriteOp

namespace Flash

open WriteOp (beforePastEnd firstPastEnd? lastBitstream?)

namespace Image

/-! ## Images in files -/

theorem ofBytes?_bytes (image : Image) : ofBytes? image.bytes = some image :=
  dif_pos image.size_eq

section

variable {tree : FileTree} {path : String}

theorem loadOrErased_of_read {image : Image} (read : tree.read path = .ok image.bytes) :
    loadOrErased tree path = .ok image := by
  rw [loadOrErased, if_pos (FileTree.fileExists_of_read read), load, read]
  dsimp only
  rw [ofBytes?_bytes]

theorem loadOrErased_of_wrongSize {bytes : ByteArray} (read : tree.read path = .ok bytes)
    (other : bytes.size ≠ Layout.flashSize) :
    loadOrErased tree path = .error (.wrongSize path bytes.size) := by
  rw [loadOrErased, if_pos (FileTree.fileExists_of_read read), load, read]
  dsimp only
  rw [ofBytes?, dif_neg other]

/-- An image is loaded as it was saved. -/
theorem loadOrErased_of_save {image : Image} {saved : FileTree}
    (done : image.save tree path = .ok saved) : loadOrErased saved path = .ok image :=
  loadOrErased_of_read (FileTree.read_of_write done)

/-- Saving only fails if nothing can be written to the path. -/
theorem exists_save_iff (image : Image) :
    (∃ saved, image.save tree path = .ok saved) ↔
      ∃ location, tree.writable true path = .ok location := by
  rw [save, FileTree.write]
  constructor
  · rintro ⟨saved, done⟩
    split at done
    · cases done
    · next location writable => exact ⟨location, writable⟩
  · rintro ⟨location, writable⟩
    rw [writable]
    exact ⟨_, rfl⟩

/-- A path without a file stands for an erased chip. -/
theorem exists_loadOrErased (usable : tree.fileExists path = false ∨
      ∃ bytes, tree.read path = .ok bytes ∧ bytes.size = Layout.flashSize) :
    ∃ image, loadOrErased tree path = .ok image := by
  rcases usable with absent | ⟨bytes, read, whole⟩
  · refine ⟨erased, ?_⟩
    rw [loadOrErased, absent]
    rfl
  · exact ⟨⟨bytes, whole⟩, loadOrErased_of_read read⟩

end

end Image

/-! ## Opening and closing the programmer -/

section

variable {settings : Settings} {path : String} (configured : settings.imagePath = some path)

include configured

theorem acquire_image (tree : FileTree) :
    Session.acquire (imageProgrammer settings) (ImageProgrammer.bench tree) =
      match Image.loadOrErased tree path with
      | .ok image => (.ok (), ⟨tree, some image, none⟩)
      | .error error =>
        (.error (.unavailable "image" error.message), ImageProgrammer.bench tree) := by
  have opened : (imageProgrammer settings).acquire (ImageProgrammer.bench tree) =
      match Image.loadOrErased tree path with
      | .ok image => (.ok (), ⟨tree, some image, none⟩)
      | .error error => (.error (.failed error.message), ImageProgrammer.bench tree) := by
    change ImageProgrammer.acquire settings.imagePath (ImageProgrammer.bench tree) = _
    unfold ImageProgrammer.acquire ImageProgrammer.bench
    rw [configured]
    dsimp only
    cases Image.loadOrErased tree path with
    | ok image => rfl
    | error error => rfl
  rw [Session.acquire, opened]
  cases Image.loadOrErased tree path with
  | ok image => rfl
  | error error => rfl

theorem finish_image (tree : FileTree) (image : Image) (loaded : Option ByteArray) :
    Session.finish (imageProgrammer settings) ⟨tree, some image, loaded⟩ =
      match image.save tree path with
      | .ok saved => (.ok (), ⟨saved, none, loaded⟩)
      | .error error => (.error (.closeFailed "image" error.message), ⟨tree, none, loaded⟩) := by
  have released : (imageProgrammer settings).release ⟨tree, some image, loaded⟩ =
      match image.save tree path with
      | .ok saved => (.ok (), ⟨saved, none, loaded⟩)
      | .error error => (.error (.failed error.message), ⟨tree, none, loaded⟩) := by
    change ImageProgrammer.release settings.imagePath _ = _
    rw [configured]
    rfl
  rw [Session.finish, released]
  cases image.save tree path with
  | ok saved => rfl
  | error error => rfl

/-- A programmer closes exactly if it can save its image. -/
theorem exists_finish_iff {tree : FileTree} {image : Image} {loaded : Option ByteArray}
    {saved : FileTree} :
    (∃ closed, closed.tree = saved ∧
      Session.finish (imageProgrammer settings) ⟨tree, some image, loaded⟩ = (.ok (), closed)) ↔
      image.save tree path = .ok saved := by
  rw [finish_image configured]
  cases image.save tree path with
  | ok next =>
    constructor
    · rintro ⟨closed, same, finished⟩
      cases finished
      rw [← same]
    · intro done
      cases done
      exact ⟨_, rfl, rfl⟩
  | error error =>
    constructor
    · rintro ⟨closed, _, impossible⟩
      cases impossible
    · intro impossible
      cases impossible

end

/-! ## Executing a plan -/

section

variable (settings : Settings) {tree : FileTree} {image : Image} {loaded : Option ByteArray}
  {op : WriteOp}

theorem write_ok {next : Image} (programmed : image.program op.address op.payload = .ok next) :
    (imageProgrammer settings).write .persistent op.kind op.address op.payload
        ⟨tree, some image, loaded⟩ = (.ok (), ⟨tree, some next, loaded⟩) := by
  change ImageProgrammer.write .persistent op.kind op.address op.payload
    ⟨tree, some image, loaded⟩ = _
  unfold ImageProgrammer.write
  dsimp only
  rw [programmed]

theorem write_error {error : Image.PastEnd}
    (refused : image.program op.address op.payload = .error error) :
    (imageProgrammer settings).write .persistent op.kind op.address op.payload
        ⟨tree, some image, loaded⟩ =
      (.error (.failed error.message), ⟨tree, some image, loaded⟩) := by
  change ImageProgrammer.write .persistent op.kind op.address op.payload
    ⟨tree, some image, loaded⟩ = _
  unfold ImageProgrammer.write
  dsimp only
  rw [refused]

end

/-- Issuing persistent writes to an open image programs them up to the end of
the chip. -/
theorem issueFrom_persistent (settings : Settings) (tree : FileTree)
    (loaded : Option ByteArray) (total : Nat) (written skipped : List String)
    (ops : List WriteOp) (image : Image) :
    ∃ programmed, image.programAll (beforePastEnd ops) = .ok programmed ∧
      issueFrom (imageProgrammer settings) .persistent total written skipped ops
          ⟨tree, some image, loaded⟩ =
        (match firstPastEnd? ops with
          | none => .ok ⟨written.reverse ++ ops.map WriteOp.region, skipped.reverse⟩
          | some op => .error ⟨op, .failed (Image.PastEnd.message ⟨op.address, op.payload.size⟩),
              written.length + (beforePastEnd ops).length, total⟩,
          ⟨tree, some programmed, loaded⟩) := by
  induction ops generalizing written image with
  | nil =>
    refine ⟨image, rfl, ?_⟩
    rw [List.map_nil, List.append_nil]
    rfl
  | cons op rest ih =>
    by_cases onChip : op.OnChip
    · rcases image.program_ok onChip with ⟨next, programmed⟩
      rcases ih (op.region :: written) next with ⟨final, others, issued⟩
      refine ⟨final, ?_, ?_⟩
      · rw [WriteOp.beforePastEnd_cons onChip, Image.programAll_cons_eq_ok_iff]
        exact ⟨next, programmed, others⟩
      · rw [issueFrom_cons, write_ok settings programmed]
        dsimp only
        rw [issued, WriteOp.firstPastEnd?_cons onChip, WriteOp.beforePastEnd_cons onChip,
          List.reverse_cons, List.append_assoc, List.map_cons, List.length_cons, List.length_cons,
          Nat.add_right_comm]
        rfl
    · refine ⟨image, ?_, ?_⟩
      · rw [WriteOp.beforePastEnd_cons_of_not onChip]
        rfl
      · rw [issueFrom_cons, write_error settings (image.program_of_not_onChip onChip),
          WriteOp.firstPastEnd?_cons_of_not onChip, WriteOp.beforePastEnd_cons_of_not onChip]
        rfl

/-- Issuing writes in volatile mode loads the bitstreams one after the other. -/
theorem issueFrom_volatile (settings : Settings) (tree : FileTree) (image : Option Image)
    (total : Nat) (written skipped : List String) (ops : List WriteOp)
    (loaded : Option ByteArray) :
    issueFrom (imageProgrammer settings) .volatile total written skipped ops
        ⟨tree, image, loaded⟩ =
      (.ok ⟨written.reverse ++ (ops.filter fun op => op.kind == .bit).map WriteOp.region,
          skipped.reverse ++ (ops.filter fun op => op.kind != .bit).map WriteOp.region⟩,
        ⟨tree, image, (lastBitstream? ops).or loaded⟩) := by
  induction ops generalizing written skipped loaded with
  | nil =>
    rw [List.filter_nil, List.filter_nil, List.map_nil, List.append_nil, List.append_nil]
    rfl
  | cons op rest ih =>
    by_cases bit : op.kind = .bit
    · have issued : Mode.volatile.issues op = true := beq_iff_eq.mpr bit
      have step : (imageProgrammer settings).write .volatile .bit op.address op.payload
          ⟨tree, image, loaded⟩ = (.ok (), ⟨tree, image, some op.payload⟩) := rfl
      rw [issueFrom, if_pos issued, bit, step]
      dsimp only
      rw [ih, WriteOp.lastBitstream?_cons bit, Option.or_assoc, Option.some_or, List.filter_cons,
        List.filter_cons, if_pos (beq_iff_eq.mpr bit), if_neg (by simp [bit]), List.map_cons,
        List.reverse_cons, List.append_assoc]
      rfl
    · have other : ¬ (op.kind == .bit) = true := fun same => bit (beq_iff_eq.mp same)
      have passed : ¬ Mode.volatile.issues op = true := other
      rw [issueFrom, if_neg passed, ih, WriteOp.lastBitstream?_cons_of_ne bit, List.filter_cons,
        List.filter_cons, if_neg other, if_pos (bne_iff_ne.mpr bit), List.map_cons,
        List.reverse_cons, List.append_assoc]
      rfl

/-- What executing writes makes of the contents of the chip, what it loads into
configuration memory, and what it reports. -/
def Executed (ops : List WriteOp) (before after : Image) (loaded : Option ByteArray)
    (result : Except Abort Report) : Mode -> Prop
  | .persistent =>
    before.programAll (beforePastEnd ops) = .ok after ∧
      result =
        match firstPastEnd? ops with
        | none => .ok ⟨ops.map WriteOp.region, []⟩
        | some op => .error ⟨op, .failed (Image.PastEnd.message ⟨op.address, op.payload.size⟩),
            (beforePastEnd ops).length, ops.length⟩
  | .volatile =>
    after = before ∧ loaded = lastBitstream? ops ∧
      result = .ok ⟨(ops.filter fun op => op.kind == .bit).map WriteOp.region,
        (ops.filter fun op => op.kind != .bit).map WriteOp.region⟩

theorem execute_image (settings : Settings) (mode : Mode) (plan : WritePlan) (tree : FileTree)
    (before : Image) :
    ∃ result after loaded,
      execute (imageProgrammer settings) mode plan ⟨tree, some before, none⟩ =
        (result, ⟨tree, some after, loaded⟩) ∧
      Executed plan.ops before after loaded result mode := by
  cases mode with
  | persistent =>
    rcases issueFrom_persistent settings tree none plan.ops.length [] [] plan.ops before with
      ⟨after, programmed, issued⟩
    refine ⟨_, after, none, issued, programmed, ?_⟩
    rw [List.length_nil, Nat.zero_add]
    rfl
  | volatile =>
    have issued := issueFrom_volatile settings tree (some before) plan.ops.length [] [] plan.ops
      none
    refine ⟨_, before, _, issued, rfl, ?_, rfl⟩
    rw [Option.or_none]

/-- How a session ends whose programmer has closed. -/
def Outcome.closed : Except Abort Report -> Outcome
  | .ok report => .completed report (.ok ())
  | .error abort => .aborted abort (.ok ())

theorem Session.run_eq {σ : Type} {programmer : Programmer σ} {mode : Mode} {plan : WritePlan}
    {state opened written closed : σ} {result : Except Abort Report}
    (acquired : acquire programmer state = (.ok (), opened))
    (executed : execute programmer mode plan opened = (result, written))
    (finished : finish programmer written = (.ok (), closed)) :
    run programmer mode plan state = (.closed result, closed) := by
  rw [run, acquired]
  dsimp only
  rw [executed]
  cases result with
  | ok report =>
    dsimp only
    rw [finished]
    rfl
  | error abort =>
    dsimp only
    rw [finished]
    rfl

/-- A session with an image file programs the chip whose contents the file
holds.  With no file, or with one of the size of the chip, the programmer opens
and the plan is executed.  It closes if something can be written to the path,
and then the contents afterwards are the ones before with the writes up to the
first one past the end of the chip, or the same ones in volatile mode.  A file
of any other size is left alone. -/
theorem session_refines_programming {settings : Settings} {path : String}
    (configured : settings.imagePath = some path) (tree : FileTree) (mode : Mode)
    (plan : WritePlan) :
    ((tree.fileExists path = false ∨
        ∃ bytes, tree.read path = .ok bytes ∧ bytes.size = Layout.flashSize) ->
      ∃ before opened result written,
        Image.loadOrErased tree path = .ok before ∧
        Session.acquire (imageProgrammer settings) (ImageProgrammer.bench tree) =
          (.ok (), opened) ∧
        execute (imageProgrammer settings) mode plan opened = (result, written) ∧
        ((∃ closed, Session.finish (imageProgrammer settings) written = (.ok (), closed)) ↔
          ∃ location, tree.writable true path = .ok location) ∧
        ∀ closed, Session.finish (imageProgrammer settings) written = (.ok (), closed) ->
          Session.run (imageProgrammer settings) mode plan (ImageProgrammer.bench tree) =
            (.closed result, closed) ∧
          ∃ after, Image.loadOrErased closed.tree path = .ok after ∧
            Executed plan.ops before after written.loaded result mode) ∧
    ∀ bytes, tree.read path = .ok bytes -> bytes.size ≠ Layout.flashSize ->
      Session.acquire (imageProgrammer settings) (ImageProgrammer.bench tree) =
        (.error (.unavailable "image" (Image.LoadError.wrongSize path bytes.size).message),
          ImageProgrammer.bench tree) ∧
      Session.run (imageProgrammer settings) mode plan (ImageProgrammer.bench tree) =
        (.unavailable (.unavailable "image"
          (Image.LoadError.wrongSize path bytes.size).message), ImageProgrammer.bench tree) := by
  constructor
  · intro usable
    rcases Image.exists_loadOrErased usable with ⟨before, loaded⟩
    have acquired := acquire_image configured tree
    rw [loaded] at acquired
    rcases execute_image settings mode plan tree before with
      ⟨result, after, bitstream, executed, effect⟩
    refine ⟨before, _, result, _, loaded, acquired, executed, ?_, ?_⟩
    · rw [← after.exists_save_iff]
      constructor
      · rintro ⟨closed, finished⟩
        exact ⟨closed.tree, (exists_finish_iff configured).mp ⟨closed, rfl, finished⟩⟩
      · rintro ⟨saved, done⟩
        rcases (exists_finish_iff configured).mpr done with ⟨closed, _, finished⟩
        exact ⟨closed, finished⟩
    · intro closed finished
      refine ⟨Session.run_eq acquired executed finished, after, ?_, effect⟩
      exact Image.loadOrErased_of_save ((exists_finish_iff configured).mp ⟨closed, rfl, finished⟩)
  · intro bytes read other
    have refused := acquire_image configured tree
    rw [Image.loadOrErased_of_wrongSize read other] at refused
    refine ⟨refused, ?_⟩
    rw [Session.run, refused]

/-- Settings with an image file. -/
def imageSettings : Settings := { Settings.standard with imagePath := some "chip.bin" }

/-- A plan whose second write runs past the end of the chip. -/
def longPlan : WritePlan :=
  { Package.tinyPlan with
    ops := [⟨"bitstream", .bit, 0, ⟨#[1, 2]⟩⟩, ⟨"fw.bin", .raw, 0xFFFFFF, ⟨#[3, 4]⟩⟩,
      ⟨"manifest", .raw, 0x1000, ⟨#[5]⟩⟩] }

theorem abortedSession_keeps_bitstream :
    ∃ abort closed after,
      Session.run (imageProgrammer imageSettings) .persistent longPlan
          (ImageProgrammer.bench (FileTree.empty [])) = (.aborted abort (.ok ()), closed) ∧
        abort.op.region = "fw.bin" ∧ abort.done = 1 ∧
        Image.loadOrErased closed.tree "chip.bin" = .ok after ∧
        after.octetAt 1 = 2 ∧ after.octetAt 0x1000 = erasedByte := by
  have configured : imageSettings.imagePath = some "chip.bin" := rfl
  have absent : (FileTree.empty []).fileExists "chip.bin" = false := rfl
  have writable : (FileTree.empty []).writable true "chip.bin" = .ok ["chip.bin"] := rfl
  rcases (session_refines_programming configured (FileTree.empty []) .persistent longPlan).1
    (.inl absent) with
    ⟨before, opened, result, written, loaded, acquired, executed, closes, session⟩
  have blank : before = Image.erased := by
    rw [Image.loadOrErased, absent] at loaded
    cases loaded
    rfl
  subst blank
  rcases closes.mpr ⟨_, writable⟩ with ⟨closed, finished⟩
  rcases session closed finished with ⟨ended, after, kept, programmed, verdict⟩
  subst verdict
  rcases Image.programAll_cons_eq_ok_iff.mp programmed with ⟨next, first, others⟩
  cases others
  refine ⟨_, _, after, ended, rfl, rfl, kept, ?_, ?_⟩
  · rw [Image.octetAt, dif_pos (by decide), Image.get_program first, if_pos (by decide)]
    decide
  · rw [Image.octetAt, dif_pos (by decide), Image.get_program first, if_neg (by decide)]
    exact Octets.getElem_fill _

end Flash
end FlashSlots
