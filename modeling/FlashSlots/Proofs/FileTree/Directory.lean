import FlashSlots.Proofs.FileTree.Parent

namespace FlashSlots

/-!
# The files of a directory

Joined with the path of a directory, a name leads to the directory first and
goes on from there.  In a directory without directories it cannot go further
than one step, so that a file can be written exactly if the name is that of a
file: without slashes, and not too long.
-/

namespace Path

/-! ## Joined paths -/

section

variable {directory name : String}

theorem join_spelled (relative : isAbsolute name = false) (nonempty : directory ≠ "") :
    ∃ front, join directory name = front ++ "/" ++ name ∧
      (directory = front ∨ directory = front ++ "/") := by
  by_cases slash : endsInSlash directory = true
  · rw [endsInSlash, beq_iff_eq, List.getLast?_eq_some_iff] at slash
    rcases slash with ⟨front, shape⟩
    have spelled : directory = String.ofList front ++ "/" := by
      rw [← String.toList_inj, shape, String.toList_append, String.toList_ofList]
      rfl
    refine ⟨String.ofList front, ?_, .inr spelled⟩
    rw [spelled, join, relative, endsInSlash_append (by decide)]
    simp [endsInSlash]
  · refine ⟨directory, ?_, .inl rfl⟩
    rw [join, relative]
    simp [nonempty, slash]

theorem names_join (relative : isAbsolute name = false) (nonempty : directory ≠ "") :
    names (join directory name) = names directory ++ names name := by
  rcases join_spelled relative nonempty with ⟨front, joined, same | slash⟩
  · rw [joined, names_append, same]
  · have shorter : names (front ++ "/") = names front := by
      rw [← String.append_empty (s := front ++ "/"), names_append]
      exact List.append_nil _
    rw [joined, names_append, slash, shorter]

theorem isAbsolute_join (relative : isAbsolute name = false) (nonempty : directory ≠ "") :
    isAbsolute (join directory name) = isAbsolute directory := by
  rcases join_spelled relative nonempty with ⟨front, joined, same | slash⟩
  · cases shape : directory.toList with
    | nil => exact absurd (String.toList_eq_nil_iff.mp shape) nonempty
    | cons first rest =>
      rw [joined, ← same, isAbsolute, isAbsolute, String.append_assoc, String.toList_append, shape]
      rfl
  · rw [joined, isAbsolute_slash, slash]

theorem mem_join (relative : isAbsolute name = false) (nonempty : directory ≠ "") {char : Char}
    (other : char ≠ '/') :
    char ∈ (join directory name).toList ↔ char ∈ directory.toList ∨ char ∈ name.toList := by
  rcases join_spelled relative nonempty with ⟨front, joined, same | slash⟩
  · rw [joined, same]
    simp [other]
  · rw [joined, slash]
    simp [other]

theorem utf8ByteSize_join_le (relative : isAbsolute name = false) (nonempty : directory ≠ "") :
    (join directory name).utf8ByteSize ≤ directory.utf8ByteSize + 1 + name.utf8ByteSize := by
  have slash : "/".utf8ByteSize = 1 := rfl
  rcases join_spelled relative nonempty with ⟨front, joined, rfl | rfl⟩ <;>
    simp only [joined, String.utf8ByteSize_append, slash] <;> omega

end

/-! ## Names of files -/

theorem names_ne_nil {path : String} (nonempty : path ≠ "") (plain : endsInSlash path = false) :
    names path ≠ [] := by
  rcases List.eq_nil_or_concat (pieces path) with empty | ⟨front, last, shape⟩
  · exact absurd (List.map_eq_nil_iff.mp empty) (split_ne_nil _ _)
  · rw [List.concat_eq_append] at shape
    have filled := last_ne_empty nonempty plain shape
    rw [names, shape, List.filter_append]
    simp [filled]

/-- The text starts neither with a slash nor with a dot. -/
def StartsName (name : String) : Prop :=
  ∃ first rest, name.toList = first :: rest ∧ first ≠ '/' ∧ first ≠ '.'

/-- A file can have this name. -/
structure FileName (name : String) : Prop where
  plain : Plain name
  clean : '\x00' ∉ name.toList
  short : name.utf8ByteSize ≤ FileTree.maxNameLength

instance (name : String) : Decidable (FileName name) :=
  decidable_of_iff
    (Plain name ∧ '\x00' ∉ name.toList ∧ name.utf8ByteSize ≤ FileTree.maxNameLength)
    ⟨fun ⟨plain, clean, short⟩ => ⟨plain, clean, short⟩,
      fun ⟨plain, clean, short⟩ => ⟨plain, clean, short⟩⟩

/-- The paths of the files of a directory are not too long. -/
def Room (directory : String) : Prop :=
  directory.utf8ByteSize + 1 + FileTree.maxNameLength < FileTree.maxPathLength

namespace StartsName

variable {name : String}

theorem ne_empty (starts : StartsName name) : name ≠ "" := by
  rcases starts with ⟨first, rest, shape, _⟩
  rintro rfl
  cases shape

theorem relative (starts : StartsName name) : isAbsolute name = false := by
  rcases starts with ⟨first, rest, shape, slash, _⟩
  rw [isAbsolute, shape, beq_eq_false_iff_ne]
  exact fun same => slash (Option.some.inj same)

theorem ne_dot (starts : StartsName name) : name ≠ "." ∧ name ≠ ".." := by
  rcases starts with ⟨first, rest, shape, _, dot⟩
  constructor <;>
  · rintro rfl
    exact dot (List.cons.inj shape).1.symm

/-- With a slash inside, the way goes on behind the first step. -/
theorem names_of_not_plain (starts : StartsName name) (slashed : ¬ Plain name) :
    ∃ first others, StartsName first ∧ names name = first :: others ∧
      (endsInSlash name = false → others ≠ []) := by
  rcases List.eq_append_cons_of_mem (Decidable.not_not.mp slashed) with
    ⟨front, back, shape, absent⟩
  have spelled : name = String.ofList front ++ "/" ++ String.ofList back := by
    rw [← String.toList_inj, shape]
    simp
  have plain : Plain (String.ofList front) := by
    rw [Plain, String.toList_ofList]
    exact absent
  have begins : StartsName (String.ofList front) := by
    rcases starts with ⟨first, rest, same, slash, dot⟩
    rw [StartsName, String.toList_ofList]
    cases front with
    | nil => exact absurd (List.cons.inj (same.symm.trans shape)).1 slash
    | cons head tail =>
      rw [← (List.cons.inj (same.symm.trans shape)).1]
      exact ⟨first, tail, rfl, slash, dot⟩
  refine ⟨String.ofList front, names (String.ofList back), begins, ?_, ?_⟩
  · rw [spelled, names_append, names_of_plain plain begins.ne_empty]
    rfl
  · intro ending
    have nonempty : String.ofList back ≠ "" := by
      intro empty
      rw [spelled, empty, String.append_empty, endsInSlash_append (by decide)] at ending
      exact absurd ending (by decide)
    rw [spelled, endsInSlash_append nonempty] at ending
    exact names_ne_nil nonempty ending

theorem names_ne_nil (starts : StartsName name) : names name ≠ [] := by
  by_cases plain : Plain name
  · rw [names_of_plain plain starts.ne_empty]
    exact List.cons_ne_nil _ _
  · rcases starts.names_of_not_plain plain with ⟨first, others, _, shape, _⟩
    rw [shape]
    exact List.cons_ne_nil _ _

end StartsName
end Path

namespace FileTree

open FlashSlots.Path (Plain StartsName FileName Room)

variable {tree : FileTree} {location : Location}

/-! ## The way through a directory -/

theorem walk_append {start : Location} {front back : List String}
    (walked : tree.walk start front = .ok (.existing location .directory)) (more : back ≠ []) :
    tree.walk start (front ++ back) = tree.walk location back := by
  induction front generalizing start with
  | nil =>
    cases walked
    rfl
  | cons name rest ih =>
    have further : rest ++ back ≠ [] := by simp [more]
    cases rest with
    | nil =>
      have stepped : tree.step start name = .ok (.existing location .directory) := walked
      rw [List.cons_append, walk_cons_of_ne_nil tree start name further, stepped]
      rfl
    | cons next others =>
      rw [walk_cons] at walked
      split at walked
      · cases walked
      · cases walked
      · cases walked
      · next through stepped =>
        rw [List.cons_append, walk_cons_of_ne_nil tree start name further, stepped]
        exact ih walked

/-- A write elsewhere leaves the way to a directory. -/
theorem walk_put_of_directory {place : Location} (vacant : tree.Open place) (node : Node)
    {start : Location} {names : List String}
    (walked : tree.walk start names = .ok (.existing location .directory)) :
    (tree.put place node).walk start names = .ok (.existing location .directory) := by
  induction names generalizing start with
  | nil =>
    cases walked
    rfl
  | cons name rest ih =>
    cases rest with
    | nil => exact step_put_of_directory vacant walked node
    | cons next others =>
      rw [walk_cons] at walked
      split at walked
      · cases walked
      · cases walked
      · cases walked
      · next through stepped =>
        rw [walk_cons, step_put_of_directory vacant stepped node]
        exact ih walked

theorem find_eq_directory_iff {path : String} :
    tree.find path = .ok (location, .directory) ↔
      tree.follow path = .ok (.existing location .directory) := by
  constructor
  · intro found
    unfold find at found
    split at found
    · cases found
    · cases found
    · split at found <;> cases found
    · next followed =>
      cases found
      exact followed
  · intro followed
    rw [find, followed]

/-! ## What a directory holds -/

/-- The path leads to a directory at the location.  It holds these files, of
those with one name the first, and nothing else. -/
structure Holds (tree : FileTree) (directory : String) (location : Location)
    (files : List (String × ByteArray)) : Prop where
  found : tree.find directory = .ok (location, .directory)
  listed : ∀ name, tree.node? (location ++ [name]) = (files.lookup name).map Node.file

namespace Holds

variable {directory name : String} {files : List (String × ByteArray)} {place : Location}

section

variable (holds : tree.Holds directory location files)

include holds

theorem ne_empty : directory ≠ "" :=
  (follow_eq_ok_iff.mp (find_eq_directory_iff.mp holds.found)).2.1

theorem vacant (name : String) : tree.Open (location ++ [name]) := by
  rw [Open, holds.listed]
  cases files.lookup name <;> simp

/-- From the directory, a name leads to a file or to a free place. -/
theorem leadsTo_of_step {step : Step} (starts : StartsName name)
    (stepped : tree.step location name = .ok step) :
    name.utf8ByteSize ≤ maxNameLength ∧ step.LeadsTo (location ++ [name]) := by
  rw [FileTree.step, if_neg starts.ne_dot.1, if_neg starts.ne_dot.2, holds.listed] at stepped
  split at stepped
  · cases stepped
  · next short =>
    refine ⟨Nat.le_of_not_lt short, ?_⟩
    cases present : files.lookup name with
    | none =>
      rw [present] at stepped
      cases stepped
      exact .free
    | some bytes =>
      rw [present] at stepped
      cases stepped
      exact .existing bytes

theorem exists_step (starts : StartsName name) (short : name.utf8ByteSize ≤ maxNameLength) :
    ∃ step : Step, tree.step location name = .ok step ∧ step.LeadsTo (location ++ [name]) := by
  rw [FileTree.step, if_neg starts.ne_dot.1, if_neg starts.ne_dot.2,
    if_neg (Nat.not_lt.mpr short), holds.listed]
  cases files.lookup name with
  | none => exact ⟨_, rfl, .free⟩
  | some bytes => exact ⟨_, rfl, .existing bytes⟩

theorem follow_join (starts : StartsName name) {step : Step} :
    tree.follow (Path.join directory name) = .ok step ↔
      '\x00' ∉ name.toList ∧ (Path.join directory name).utf8ByteSize < maxPathLength ∧
        tree.walk location (Path.names name) = .ok step := by
  rcases follow_eq_ok_iff.mp (find_eq_directory_iff.mp holds.found) with ⟨clean, _, _, walked⟩
  have named : Path.join directory name ≠ "" := by
    rcases Path.join_spelled starts.relative holds.ne_empty with ⟨front, joined, _⟩
    rw [joined]
    simp
  rw [follow_eq_ok_iff, Path.mem_join starts.relative holds.ne_empty (by decide),
    Path.isAbsolute_join starts.relative holds.ne_empty,
    Path.names_join starts.relative holds.ne_empty, walk_append walked starts.names_ne_nil]
  simp only [clean, named, false_or, ne_eq, not_false_eq_true, true_and]

end

theorem writable_iff (holds : tree.Holds directory location files) (room : Room directory)
    (starts : StartsName name) :
    tree.writable true (Path.join directory name) = .ok place ↔
      FileName name ∧ place = location ++ [name] := by
  have ending : Path.endsInSlash (Path.join directory name) = Path.endsInSlash name := by
    rcases Path.join_spelled starts.relative holds.ne_empty with ⟨front, joined, _⟩
    rw [joined, Path.endsInSlash_append starts.ne_empty]
  rw [writable_iff_leadsTo, ending]
  constructor
  · rintro ⟨level, step, followed, leads⟩
    rcases (holds.follow_join starts).mp followed with ⟨clean, _, walked⟩
    by_cases plain : Plain name
    · rw [Path.names_of_plain plain starts.ne_empty] at walked
      rcases holds.leadsTo_of_step starts walked with ⟨short, reached⟩
      refine ⟨⟨plain, clean, short⟩, ?_⟩
      cases reached <;> cases leads <;> rfl
    · -- The first step does not lead to a directory, so there is no second one.
      rcases starts.names_of_not_plain plain with ⟨first, others, begins, shape, more⟩
      rw [shape, walk_cons_of_ne_nil tree location first (more level)] at walked
      split at walked
      · cases walked
      · cases walked
      · cases walked
      · next stepped => cases (holds.leadsTo_of_step begins stepped).2
  · rintro ⟨⟨plain, clean, short⟩, rfl⟩
    rcases holds.exists_step starts short with ⟨step, stepped, leads⟩
    have fits := Path.utf8ByteSize_join_le starts.relative holds.ne_empty
    refine ⟨Path.endsInSlash_of_plain plain, step, (holds.follow_join starts).mpr ?_, leads⟩
    rw [Path.names_of_plain plain starts.ne_empty]
    exact ⟨clean, by unfold Room at room; omega, stepped⟩

theorem put (holds : tree.Holds directory location files) (name : String) (bytes : ByteArray) :
    (tree.put (location ++ [name]) (.file bytes)).Holds directory location
      ((name, bytes) :: files) := by
  refine ⟨find_eq_directory_iff.mpr ?_, ?_⟩
  · rcases follow_eq_ok_iff.mp (find_eq_directory_iff.mp holds.found) with
      ⟨clean, named, short, walked⟩
    exact follow_eq_ok_iff.mpr
      ⟨clean, named, short, walk_put_of_directory (holds.vacant name) _ walked⟩
  · intro other
    rw [List.lookup_cons]
    by_cases same : other = name
    · rw [same, node?_put_self (holds.vacant name), beq_self_eq_true]
      rfl
    · rw [node?_put_of_ne (by simpa using same), holds.listed, beq_eq_false_iff_ne.mpr same]

/-- A file is written exactly if it can have its name. -/
theorem write_eq_ok_iff (holds : tree.Holds directory location files) (room : Room directory)
    (starts : StartsName name) {bytes : ByteArray} {written : FileTree} :
    tree.write true (Path.join directory name) bytes = .ok written ↔
      FileName name ∧ written = tree.put (location ++ [name]) (.file bytes) := by
  unfold write
  split
  · next cause refused =>
    refine ⟨nofun, fun allowed => ?_⟩
    rw [(holds.writable_iff room starts).mpr ⟨allowed.1, rfl⟩] at refused
    cases refused
  · next writable =>
    rcases (holds.writable_iff room starts).mp writable with ⟨allowed, rfl⟩
    rw [Except.ok.injEq]
    exact ⟨fun same => ⟨allowed, same.symm⟩, fun same => same.2.symm⟩

end Holds
end FileTree
end FlashSlots
