import FlashSlots.Flash.Execution
import FlashSlots.Flash.ImageProgrammer
import FlashSlots.Proofs.Flash.Deployment

namespace FlashSlots

open Layout (SlotIndex Target)

/-!
# Interrupted executions

An execution that is aborted has programmed the writes before the failing one
and nothing else.  Only the last write of a plan touches the manifest page of
the slot, so that every manifest page is still what it was: the menu shows all
slots as before.  The slot of the plan is shown as unknown only if it had no
valid manifest to begin with; a slot that is flashed again keeps its old
manifest over contents that no longer belong to it.
-/

namespace Flash

variable {σ : Type} {programmer : Programmer σ} {chip : σ -> Image}

/-! ## Programmers that act on a chip -/

/-- A persistent write programs the chip, and one that fails leaves it alone. -/
structure Programmer.Programs (programmer : Programmer σ) (chip : σ -> Image) : Prop where
  written : forall {kind address payload state next},
    programmer.write .persistent kind address payload state = (.ok (), next) ->
      (chip state).program address payload = .ok (chip next)
  refused : forall {kind address payload state fault next},
    programmer.write .persistent kind address payload state = (.error fault, next) ->
      chip next = chip state

theorem imageProgrammer_programs (settings : Settings) :
    (imageProgrammer settings).Programs fun bench => bench.image.getD Image.erased where
  written := by
    intro kind address payload state next done
    change ImageProgrammer.write .persistent kind address payload state = _ at done
    unfold ImageProgrammer.write at done
    dsimp only at done
    split at done
    · cases done
    · next image opened =>
      split at done
      · cases done
      · next programmed =>
        cases done
        rw [opened]
        exact programmed
  refused := by
    intro kind address payload state fault next failed
    change ImageProgrammer.write .persistent kind address payload state = _ at failed
    unfold ImageProgrammer.write at failed
    dsimp only at failed
    split at failed
    · cases failed
      rfl
    · split at failed
      · cases failed
        rfl
      · cases failed

/-- A write to a chip that gives out after a number of writes. -/
def wornWrite (address : UInt32) (payload : ByteArray) :
    Image × Nat -> Except Fault Unit × (Image × Nat)
  | (image, 0) => (.error (.failed "worn out"), (image, 0))
  | (image, left + 1) =>
    match image.program address payload with
    | .ok next => (.ok (), (next, left))
    | .error error => (.error (.failed error.message), (image, left))

def worn : Programmer (Image × Nat) where
  name := "worn"
  acquire := fun state => (.ok (), state)
  write := fun _ _ => wornWrite
  release := fun state => (.ok (), state)
  describe := fun _ op => op.describe

theorem worn_programs : worn.Programs Prod.fst where
  written := by
    intro kind address payload state next done
    rcases state with ⟨image, _ | left⟩
    · cases done
    · change wornWrite address payload (image, left + 1) = _ at done
      rw [wornWrite] at done
      split at done
      · next programmed =>
        cases done
        exact programmed
      · cases done
  refused := by
    intro kind address payload state fault next failed
    rcases state with ⟨image, _ | left⟩
    · cases failed
      rfl
    · change wornWrite address payload (image, left + 1) = _ at failed
      rw [wornWrite] at failed
      split at failed
      · cases failed
      · cases failed
        rfl

/-! ## Aborted executions -/

/-- Issuing the first of several persistent writes. -/
theorem issueFrom_cons (total : Nat) (written skipped : List String) (op : WriteOp)
    (rest : List WriteOp) (state : σ) :
    issueFrom programmer .persistent total written skipped (op :: rest) state =
      match programmer.write .persistent op.kind op.address op.payload state with
      | (.ok (), next) =>
        issueFrom programmer .persistent total (op.region :: written) skipped rest next
      | (.error fault, next) => (.error ⟨op, fault, written.length, total⟩, next) := rfl

/-- The writes before the failing one are on the chip. -/
theorem programmed_of_issueFrom (programs : programmer.Programs chip) {total : Nat}
    {written skipped : List String} {ops : List WriteOp} {state final : σ} {abort : Abort}
    (aborted : issueFrom programmer .persistent total written skipped ops state =
      (.error abort, final)) :
    ∃ count, abort.done = written.length + count ∧ count < ops.length ∧
      (chip state).programAll (ops.take count) = .ok (chip final) := by
  induction ops generalizing written state with
  | nil => cases aborted
  | cons op rest ih =>
    rw [issueFrom_cons] at aborted
    split at aborted
    · next next issued =>
      rcases ih aborted with ⟨count, done, short, programmed⟩
      refine ⟨count + 1, ?_, Nat.succ_lt_succ short, ?_⟩
      · rw [done, List.length_cons]
        omega
      · rw [List.take_succ_cons, Image.programAll_cons_eq_ok_iff]
        exact ⟨chip next, programs.written issued, programmed⟩
    · next failed =>
      cases aborted
      refine ⟨0, rfl, Nat.succ_pos _, ?_⟩
      rw [programs.refused failed]
      rfl

theorem programmed_of_execute (programs : programmer.Programs chip) {plan : WritePlan}
    {state final : σ} {abort : Abort}
    (aborted : execute programmer .persistent plan state = (.error abort, final)) :
    abort.done < plan.ops.length ∧
      (chip state).programAll (plan.ops.take abort.done) = .ok (chip final) := by
  rcases programmed_of_issueFrom programs aborted with ⟨count, done, short, programmed⟩
  have same : abort.done = count := done.trans (Nat.zero_add count)
  rw [same]
  exact ⟨short, programmed⟩

/-- A worn chip takes the writes that it has left and refuses the next one. -/
theorem issueFrom_worn (total : Nat) (written skipped : List String) {ops : List WriteOp}
    (onChip : ∀ op ∈ ops, op.OnChip) (image : Image) {left : Nat} (short : left < ops.length) :
    ∃ abort final, issueFrom worn .persistent total written skipped ops (image, left) =
      (.error abort, final) ∧ abort.done = written.length + left := by
  induction ops generalizing written image left with
  | nil => cases short
  | cons op rest ih =>
    cases left with
    | zero => exact ⟨_, _, rfl, rfl⟩
    | succ left =>
      rcases List.forall_mem_cons.mp onChip with ⟨first, others⟩
      rcases Image.program_ok image first with ⟨next, programmed⟩
      have issued : worn.write .persistent op.kind op.address op.payload (image, left + 1) =
          (.ok (), (next, left)) := by
        change wornWrite op.address op.payload (image, left + 1) = _
        rw [wornWrite, programmed]
      rcases ih (op.region :: written) others next (Nat.lt_of_succ_lt_succ short) with
        ⟨abort, final, aborted, done⟩
      refine ⟨abort, final, ?_, ?_⟩
      · rw [issueFrom_cons, issued]
        exact aborted
      · rw [done, List.length_cons]
        omega

end Flash

namespace Package

open Flash (Image worn erasedByte)
open Flash.Image (pageStop)

/-! ## Plans that were cut short -/

/-- Only the last write of a plan touches a manifest page. -/
theorem not_touches_manifestPage {target : Target} {build : Build} {plan : WritePlan}
    (packaged : package target build = .ok plan) {count : Nat} (short : count < plan.ops.length)
    {op : WriteOp} (member : op ∈ plan.ops.take count) (slot : SlotIndex) {index : Nat}
    (within : index < Layout.manifestSize) :
    ¬ op.Touches ((Layout.manifestAddress slot).toNat + index) := by
  intro touched
  by_cases same : target = .user slot
  · rcases ops_of_package packaged with ⟨firmwareOps, order, _⟩
    have shape : plan.ops =
        (bitstreamOp target build.bitstream :: firmwareOps) ++
          [manifestOp target plan.manifest] := order
    have apart := apart_of_package packaged
    rw [shape] at apart short member
    rw [List.length_append, List.length_singleton] at short
    rw [List.take_append_of_le_length (Nat.le_of_lt_succ short)] at member
    have page := touches_manifestPage target plan.manifest within
    rw [same, ← Layout.manifestAddress_eq, ← same] at page
    have separate := (List.pairwise_append.mp apart).2.2 op (List.mem_of_mem_take member)
      (manifestOp target plan.manifest) List.mem_cons_self
    exact separate.not_touches touched page
  · have inside := inSlot_of_package packaged op (List.mem_of_mem_take member)
    exact Layout.manifestPage_outside same within (inside.of_touches touched)

section

variable {target : Target} {build : Build} {plan : WritePlan}
  (packaged : package target build = .ok plan) {count : Nat} (short : count < plan.ops.length)
  {image cut : Image} (programmed : image.programAll (plan.ops.take count) = .ok cut)

include packaged short programmed

theorem slotManifest?_of_take (slot : SlotIndex) :
    Selector.slotManifest? cut slot = Selector.slotManifest? image slot := by
  apply Selector.slotManifest?_congr
  intro index within
  unfold Image.octetAt
  split
  · next inside =>
    apply Image.get_programAll_of_untouched programmed inside
    intro op member
    exact not_touches_manifestPage packaged short member slot within
  · rfl

/-- A plan that was cut short has not changed the menu. -/
theorem readEntries_of_take : Selector.readEntries cut = Selector.readEntries image := by
  apply List.map_congr_left
  intro slot _
  exact Selector.entry_congr (slotManifest?_of_take packaged short programmed slot)

end

/-- After an aborted execution the menu is the old one.  The slot of the plan
has no valid manifest, and is shown as unknown, exactly if it had none before. -/
theorem unknown_after_abort_iff {σ : Type} {programmer : Flash.Programmer σ} {chip : σ -> Image}
    (programs : programmer.Programs chip) {slot : SlotIndex} {build : Build} {plan : WritePlan}
    (packaged : package (.user slot) build = .ok plan) {state final : σ} {abort : Flash.Abort}
    (aborted : Flash.execute programmer .persistent plan state = (.error abort, final)) :
    abort.done < plan.ops.length ∧
      (chip state).programAll (plan.ops.take abort.done) = .ok (chip final) ∧
      (∀ selector, Selector.OpensMenu (chip final) selector ->
        selector.entries = Selector.readEntries (chip state)) ∧
      ((Selector.slotManifest? (chip final) slot = none ∧
          ∀ selector, Selector.OpensMenu (chip final) selector ->
            ⟨slot, Manifest.unknownName, none⟩ ∈ selector.entries) ↔
        Selector.slotManifest? (chip state) slot = none) := by
  rcases Flash.programmed_of_execute programs aborted with ⟨short, programmed⟩
  have menu : ∀ selector, Selector.OpensMenu (chip final) selector ->
      selector.entries = Selector.readEntries (chip state) := by
    intro selector opened
    rw [Selector.entries_of_opensMenu opened]
    exact readEntries_of_take packaged short programmed
  refine ⟨short, programmed, menu, ?_⟩
  rw [slotManifest?_of_take packaged short programmed slot]
  constructor
  · intro unknown
    exact unknown.1
  · intro none
    refine ⟨none, ?_⟩
    intro selector opened
    rw [menu selector opened]
    refine List.mem_map.mpr ⟨slot, SlotIndex.mem_all slot, ?_⟩
    rw [Selector.entry, none]
    rfl

theorem slotManifest?_erased (slot : SlotIndex) :
    Selector.slotManifest? Image.erased slot = none := by
  have blank : Image.erased.read (Layout.manifestAddress slot).toNat Layout.manifestSize =
      Octets.fill erasedByte Layout.manifestSize := by
    have size := Octets.size_fill erasedByte Layout.manifestSize
    conv => lhs; rw [← size]
    apply Image.read_eq
    intro index inside
    rw [Octets.getElem_fill]
    unfold Image.octetAt
    split
    · exact Octets.getElem_fill _
    · rfl
  rw [Selector.slotManifest?, blank, Manifest.readFlash_fill]
  rfl

theorem unknown_after_abort_on_erased :
    ∃ abort final, Flash.execute worn .persistent tinyPlan (Image.erased, 2) =
        (.error abort, final) ∧ abort.done = 2 ∧
      Selector.slotManifest? final.1 ⟨1, by decide⟩ = none ∧
      ⟨⟨1, by decide⟩, "<unknown>", none⟩ ∈ (Selector.new final.1).entries := by
  have onChip : ∀ op ∈ tinyPlan.ops, op.OnChip :=
    fun op member => (inSlot_of_package package_tinyBuild op member).1
  rcases Flash.issueFrom_worn _ [] [] onChip Image.erased (show 2 < _ by decide) with
    ⟨abort, final, aborted, done⟩
  rcases unknown_after_abort_iff Flash.worn_programs package_tinyBuild aborted with
    ⟨_, _, _, unknown⟩
  rcases unknown.mpr (slotManifest?_erased _) with ⟨none, shown⟩
  exact ⟨abort, final, aborted, done, none, shown _ .started⟩

/-- Flashing a slot again and giving up before the manifest leaves the slot
with its old manifest. -/
theorem interrupted_update_shows_manifest :
    ∃ image, Image.erased.programAll tinyPlan.ops = .ok image ∧
      ∃ abort final, Flash.execute worn .persistent tinyPlan (image, 2) =
          (.error abort, final) ∧ abort.done = 2 ∧
        Selector.slotManifest? final.1 ⟨1, by decide⟩ = some tinyPlan.manifest ∧
        ⟨⟨1, by decide⟩, "DSP", some tinyPlan.manifest⟩ ∈ (Selector.new final.1).entries := by
  have onChip : ∀ op ∈ tinyPlan.ops, op.OnChip :=
    fun op member => (inSlot_of_package package_tinyBuild op member).1
  rcases programAll_of_package package_tinyBuild Image.erased with ⟨image, flashed⟩
  rcases Flash.issueFrom_worn _ [] [] onChip image (show 2 < _ by decide) with
    ⟨abort, final, aborted, done⟩
  rcases Flash.programmed_of_execute Flash.worn_programs aborted with ⟨short, programmed⟩
  have shown := entry_flashed package_tinyBuild flashed ⟨1, by decide⟩
  rw [if_pos rfl] at shown
  have menu : (Selector.new final.1).entries = Selector.readEntries image :=
    readEntries_of_take package_tinyBuild short programmed
  have kept := slotManifest?_of_take package_tinyBuild short programmed ⟨1, by decide⟩
  refine ⟨image, flashed, abort, final, aborted, done, ?_, ?_⟩
  · rw [kept, ← Selector.manifest_entry, shown]
  · rw [menu]
    exact List.mem_map.mpr ⟨⟨1, by decide⟩, SlotIndex.mem_all _, shown⟩

end Package
end FlashSlots
