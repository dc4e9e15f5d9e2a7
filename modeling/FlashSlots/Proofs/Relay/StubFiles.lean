import FlashSlots.CommandLine.StubFile
import FlashSlots.Compression.Stored
import FlashSlots.Proofs.Compression.Limit
import FlashSlots.Proofs.Compression.Streams
import FlashSlots.Proofs.FileTree.Parent

namespace FlashSlots

/-!
# From a stub file to the relay

The command that makes a stub file and the relay that loads it agree on the
name of the file and on its format.  They do not agree on its length: the
command compresses whatever it is given, and the relay only decompresses a stub
up to a greatest length.  A longer one is reported as made, and is noticed when
it is needed.

Nothing is known of how the command compresses, except that its writer is
lossless.
-/

open Compression (Writers Zlib.Lossless)

namespace StubTable

theorem lookup_filter_of_ne {trigger other : Trigger} (different : other ≠ trigger)
    (entries : List (Trigger × ByteArray)) :
    (entries.filter fun entry => entry.1 != trigger).lookup other = entries.lookup other := by
  induction entries with
  | nil => rfl
  | cons entry rest ih =>
    rcases entry with ⟨listed, compressed⟩
    by_cases same : listed = trigger
    · have apart : (other == listed) = false := beq_eq_false_iff_ne.mpr (same ▸ different)
      rw [List.filter_cons_of_neg (by simp [same]), ih, List.lookup_cons, apart]
    · rw [List.filter_cons_of_pos (by simp [same]), List.lookup_cons, List.lookup_cons, ih]

theorem lookup_insert (table : StubTable) (trigger other : Trigger) (compressed : ByteArray) :
    (table.insert trigger compressed).entries.lookup other =
      if other = trigger then some compressed else table.entries.lookup other := by
  rw [insert, List.lookup_cons]
  by_cases same : other = trigger
  · rw [if_pos same, beq_iff_eq.mpr same]
  · rw [if_neg same, beq_eq_false_iff_ne.mpr same]
    exact lookup_filter_of_ne same table.entries

/-! ## Loading a directory -/

section

variable (tree : FileTree) (directory : String)

/-- What the stub file of a trigger holds, if there is one. -/
def stored? (trigger : Trigger) : Option ByteArray :=
  (tree.content (Path.join directory trigger.stubFileName)).toOption

theorem loadEntry_eq (table : StubTable) (trigger : Trigger) :
    loadEntry tree directory table trigger =
      .ok (match stored? tree directory trigger with
        | some compressed => table.insert trigger compressed
        | none => table) := by
  rw [loadEntry, stored?, FileTree.isFile, FileTree.read, FileTree.content]
  split
  · next found => simp only [found]; rfl
  · next other =>
    cases found : tree.find (Path.join directory trigger.stubFileName) with
    | error cause => rfl
    | ok reached =>
      rcases reached with ⟨location, node⟩
      cases node with
      | directory => rfl
      | file bytes => exact absurd found (other location bytes)

theorem load_lookup (triggers : List Trigger) (start : StubTable) :
    ∃ table, triggers.foldlM (loadEntry tree directory) start = .ok table ∧
      ∀ trigger, table.entries.lookup trigger =
        if trigger ∈ triggers then
          (stored? tree directory trigger).or (start.entries.lookup trigger)
        else start.entries.lookup trigger := by
  induction triggers generalizing start with
  | nil => exact ⟨start, rfl, fun trigger => by simp⟩
  | cons first rest ih =>
    rw [List.foldlM_cons, loadEntry_eq]
    cases kept : stored? tree directory first with
    | none =>
      rcases ih start with ⟨table, loaded, found⟩
      refine ⟨table, loaded, ?_⟩
      intro trigger
      rw [found]
      by_cases same : trigger = first
      · simp [same, kept]
      · simp [same]
    | some compressed =>
      rcases ih (start.insert first compressed) with ⟨table, loaded, found⟩
      refine ⟨table, loaded, ?_⟩
      intro trigger
      rw [found, lookup_insert]
      by_cases same : trigger = first
      · simp [same, kept]
      · simp [same]

/-- A directory can always be loaded, and every trigger gets what its stub file
holds. -/
theorem loadDirectory_lookup :
    ∃ table, loadDirectory tree directory = .ok table ∧
      ∀ trigger, table.entries.lookup trigger = stored? tree directory trigger := by
  rcases load_lookup tree directory Trigger.all empty with ⟨table, loaded, found⟩
  refine ⟨table, loaded, ?_⟩
  intro trigger
  rw [found, if_pos (Trigger.mem_all trigger)]
  exact Option.or_none

end

section

variable [Writers] {trigger : Trigger} {bitstream : ByteArray}

/-- Loading the directory of a stub file finds the stub. -/
theorem loaded_from_file {tree : FileTree} {path : String} {location : Location}
    (named : Path.fileName? path = some trigger.stubFileName)
    (reached : tree.find path = .ok (location, .file (compress bitstream))) :
    ∃ directory table, Path.parent? path = some directory ∧
      loadDirectory tree directory = .ok table ∧
      table.entries.lookup trigger = some (compress bitstream) := by
  rcases FileTree.find_join_parent reached named with ⟨directory, above, found⟩
  rcases loadDirectory_lookup tree directory with ⟨table, loaded, holds⟩
  refine ⟨directory, table, above, loaded, ?_⟩
  rw [holds, stored?, FileTree.content, found]
  rfl

/-- A stub that is in the table is decompressed only if it is not too long. -/
theorem vector_of_compressed {table : StubTable}
    (lossless : Zlib.Lossless (Writers.deflate compressionLevel))
    (present : table.entries.lookup trigger = some (compress bitstream)) :
    table.vector trigger =
      if bitstream.size ≤ maxVectorSize then .ok bitstream else .error (.corrupt trigger) := by
  rw [vector, present]
  dsimp only
  rw [compress, lossless.decompress?_eq]
  by_cases short : bitstream.size ≤ maxVectorSize
  · rw [if_pos short, if_pos short]
  · rw [if_neg short, if_neg short]

end

end StubTable

namespace CommandLine

open Layout (Target)

theorem stubWarnings_eq_nil_iff {trigger : Trigger} {output : String} :
    stubWarnings trigger output = [] ↔ Path.fileName? output = some trigger.stubFileName := by
  unfold stubWarnings
  split
  · next named => exact iff_of_true rfl named
  · next other => exact iff_of_false (List.cons_ne_nil _ _) other

section

variable [Writers] {choice : TargetChoice} {input output : String} {tree written : FileTree}
  {report : StubReport}

/-- Making a stub file compresses the input to the place of the output. -/
theorem makeStub_of_read {target : Target} {bitstream : ByteArray} {location : Location}
    (selected : choice.target = .ok target) (read : tree.read input = .ok bitstream)
    (writable : tree.writable true output = .ok location) :
    ∃ report, makeStub choice input output tree =
      (.ok report, tree.put location (.file (StubTable.compress bitstream))) := by
  rw [makeStub, selected]
  dsimp only
  rw [read]
  dsimp only
  rw [FileTree.write, writable]
  exact ⟨_, rfl⟩

/-- A report means that the input was read and compressed to the output, and
that a slot was chosen, whose trigger the warnings are about. -/
theorem made_of_makeStub (made : makeStub choice input output tree = (.ok report, written)) :
    ∃ target bitstream location, choice.target = .ok target ∧ tree.read input = .ok bitstream ∧
      report.warnings = stubWarnings (Trigger.ofTarget target) output ∧
      written.find output = .ok (location, .file (StubTable.compress bitstream)) := by
  unfold makeStub at made
  split at made
  · cases made
  · next target selected =>
    split at made
    · cases made
    · next bitstream read =>
      dsimp only at made
      unfold FileTree.write at made
      cases writable : tree.writable true output with
      | error cause =>
        rw [writable] at made
        cases made
      | ok location =>
        rw [writable] at made
        cases made
        exact ⟨target, bitstream, location, selected, read, rfl, FileTree.find_put writable _⟩

/-- A stub that is made without a warning is loaded for the trigger of its
slot. -/
theorem loaded_of_quiet (made : makeStub choice input output tree = (.ok report, written))
    (quiet : report.warnings = []) :
    ∃ target bitstream directory table, choice.target = .ok target ∧
      tree.read input = .ok bitstream ∧ Path.parent? output = some directory ∧
      StubTable.loadDirectory written directory = .ok table ∧
      table.entries.lookup (Trigger.ofTarget target) = some (StubTable.compress bitstream) := by
  rcases made_of_makeStub made with ⟨target, bitstream, location, selected, read, warned, reached⟩
  rw [quiet] at warned
  have named := stubWarnings_eq_nil_iff.mp warned.symm
  rcases StubTable.loaded_from_file named reached with ⟨directory, table, above, loaded, present⟩
  exact ⟨target, bitstream, directory, table, selected, read, above, loaded, present⟩

/-- A stub that is made under the name for a trigger, as it is for the slot of
the command, is what the relay gets for that trigger, octet by octet, exactly if
it is not longer than the relay allows.  A longer one is reported as made, and
the relay takes it for a damaged one.  That holds for every writer whose streams
give their texts back. -/
theorem made_stub_replayable_iff {trigger : Trigger}
    (lossless : Zlib.Lossless (Writers.deflate StubTable.compressionLevel))
    (named : Path.fileName? output = some trigger.stubFileName)
    (made : makeStub choice input output tree = (.ok report, written)) :
    ∃ bitstream directory table, tree.read input = .ok bitstream ∧
      Path.parent? output = some directory ∧
      StubTable.loadDirectory written directory = .ok table ∧
      table.entries.lookup trigger = some (StubTable.compress bitstream) ∧
      (table.vector trigger = .ok bitstream ↔ bitstream.size ≤ StubTable.maxVectorSize) ∧
      (StubTable.maxVectorSize < bitstream.size ->
        table.vector trigger = .error (.corrupt trigger)) := by
  rcases made_of_makeStub made with ⟨-, bitstream, location, -, read, -, reached⟩
  rcases StubTable.loaded_from_file named reached with ⟨directory, table, above, loaded, present⟩
  have vector := StubTable.vector_of_compressed lossless present
  refine ⟨bitstream, directory, table, read, above, loaded, present, ?_, ?_⟩
  · rw [vector]
    constructor
    · intro same
      split at same
      · next short => exact short
      · cases same
    · exact fun short => if_pos short
  · exact fun long => vector.trans (if_neg (Nat.not_le.mpr long))

end

/-! ## One bitstream in a directory -/

/-- A directory that holds one bitstream. -/
def benchTree (bitstream : ByteArray) : FileTree :=
  ⟨["bench"], [(["bench", "boot.bit"], .file bitstream)]⟩

/-- The directory with the stub for the boot menu made from the bitstream. -/
def benchTreeWithStub [Writers] (bitstream : ByteArray) : FileTree :=
  (benchTree bitstream).put ["bench", "bootloader.z"] (.file (StubTable.compress bitstream))

theorem makeStub_benchTree [Writers] (bitstream : ByteArray) :
    ∃ report, makeStub .bootloader "boot.bit" "bootloader.z" (benchTree bitstream) =
      (.ok report, benchTreeWithStub bitstream) :=
  makeStub_of_read rfl rfl rfl

theorem fileName_of_menuStub :
    Path.fileName? "bootloader.z" = some Trigger.bootloader.stubFileName := by
  decide +kernel

/-- Forty different octets, each with a word of nine bits in the fixed code,
which would make them longer.  It is best to store them. -/
def plainStub : ByteArray := ⟨Array.ofFn fun index : Fin 40 => UInt8.ofNat (144 + index)⟩

/-- When it is stored, it is replayed as it was. -/
theorem plainStub_replayable :
    ∃ report written table,
      makeStub .bootloader "boot.bit" "bootloader.z" (benchTree plainStub) =
        (.ok report, written) ∧
      StubTable.loadDirectory written "" = .ok table ∧
      table.vector .bootloader = .ok plainStub := by
  rcases makeStub_benchTree plainStub with ⟨report, made⟩
  rcases made_stub_replayable_iff Compression.Zlib.lossless_stored fileName_of_menuStub made with
    ⟨bitstream, directory, table, read, above, loaded, -, vector, -⟩
  have same : plainStub = bitstream := Except.ok.inj read
  have here : "" = directory := Option.some.inj above
  subst same here
  exact ⟨report, _, table, made, loaded, vector.mpr (by decide)⟩

/-- A stored stub with one octet more than the relay allows is reported as made,
but the relay does not get it back. -/
theorem longStub_reported_but_corrupt :
    ∃ report written table bitstream,
      bitstream.size = StubTable.maxVectorSize + 1 ∧
      makeStub .bootloader "boot.bit" "bootloader.z" (benchTree bitstream) = (.ok report, written) ∧
      Path.fileName? "bootloader.z" = some Trigger.bootloader.stubFileName ∧
      Path.parent? "bootloader.z" = some "" ∧
      StubTable.loadDirectory written "" = .ok table ∧
      table.vector .bootloader = .error (.corrupt .bootloader) := by
  let bitstream := Octets.fill 0 (StubTable.maxVectorSize + 1)
  have size : bitstream.size = StubTable.maxVectorSize + 1 := Octets.size_fill 0 _
  rcases makeStub_benchTree bitstream with ⟨report, made⟩
  have reached : (benchTreeWithStub bitstream).find "bootloader.z" =
      .ok (["bench", "bootloader.z"], .file (StubTable.compress bitstream)) := rfl
  rcases StubTable.loaded_from_file fileName_of_menuStub reached with
    ⟨directory, table, above, loaded, present⟩
  have here : "" = directory := Option.some.inj above
  subst here
  refine ⟨report, _, table, bitstream, size, made, fileName_of_menuStub, above, loaded, ?_⟩
  rw [StubTable.vector_of_compressed Compression.Zlib.lossless_stored present, if_neg]
  omega

end CommandLine
end FlashSlots
