import FlashSlots.FileTree.Access
import FlashSlots.Proofs.Outcome

namespace FlashSlots
namespace FileTree

/-!
# Reading what was written

A file that has been written is found again on the same path.  The way to it
leads through directories, and nothing can be written to the location of a
directory, so that the write does not change the way.
-/

variable {tree : FileTree} {location : Location}

theorem lookup_replace (location other : Location) (node : Node)
    (nodes : List (Location × Node)) :
    (replace location node nodes).lookup other =
      if other = location then some node else nodes.lookup other := by
  induction nodes with
  | nil =>
    by_cases same : other = location
    · rw [if_pos same, same]
      exact List.lookup_cons_self
    · rw [if_neg same, replace, List.lookup_cons, beq_eq_false_iff_ne.mpr same]
  | cons entry rest ih =>
    rcases entry with ⟨listed, found⟩
    rw [replace]
    split
    · next here =>
      subst here
      by_cases same : other = listed
      · rw [if_pos same, same]
        exact List.lookup_cons_self
      · rw [if_neg same, List.lookup_cons, List.lookup_cons, beq_eq_false_iff_ne.mpr same]
    · next elsewhere =>
      by_cases same : other = listed
      · rw [if_neg (same ▸ elsewhere), same, List.lookup_cons_self, List.lookup_cons_self]
      · rw [List.lookup_cons, List.lookup_cons, beq_eq_false_iff_ne.mpr same]
        exact ih

/-- A file can be written there: no directory stands at the location. -/
def Open (tree : FileTree) (location : Location) : Prop :=
  tree.node? location ≠ some .directory

theorem node?_put_self (vacant : tree.Open location) (node : Node) :
    (tree.put location node).node? location = some node := by
  unfold Open node? at vacant
  split at vacant
  · exact absurd rfl vacant
  · next outside =>
    rw [node?, put, if_neg outside, lookup_replace, if_pos rfl]

theorem node?_put_of_ne {other : Location} (different : other ≠ location) (node : Node) :
    (tree.put location node).node? other = tree.node? other := by
  rw [node?, node?, put, lookup_replace, if_neg different]

/-! ## The way to a file -/

/-- A step leads to this location, and what is there is no directory. -/
inductive Step.LeadsTo (location : Location) : Step -> Prop where
  | free : LeadsTo location (.free location)
  | existing (bytes : ByteArray) : LeadsTo location (.existing location (.file bytes))

theorem step_leadsTo {directory : Location} {name : String} {step : Step}
    (stepped : tree.step directory name = .ok step) (leads : step.LeadsTo location) :
    tree.Open location ∧ ∀ node, (tree.put location node).step directory name =
      .ok (.existing location node) := by
  unfold FileTree.step at stepped
  split at stepped
  · cases stepped
    cases leads
  · next here =>
    split at stepped
    · cases stepped
      cases leads
    · next up =>
      split at stepped
      · cases stepped
      · next short =>
        have vacant : tree.Open location ∧ location = directory ++ [name] := by
          split at stepped
          · next node found =>
            cases stepped
            cases leads
            exact ⟨by simp [Open, found], rfl⟩
          · next missing =>
            cases stepped
            cases leads
            exact ⟨by simp [Open, missing], rfl⟩
        rcases vacant with ⟨vacant, same⟩
        refine ⟨vacant, ?_⟩
        intro node
        rw [FileTree.step, if_neg here, if_neg up, if_neg short, ← same,
          node?_put_self vacant node]

/-- A write elsewhere leaves the way through a directory. -/
theorem step_put_of_directory (vacant : tree.Open location) {directory next : Location}
    {name : String} (stepped : tree.step directory name = .ok (.existing next .directory))
    (node : Node) :
    (tree.put location node).step directory name = .ok (.existing next .directory) := by
  rw [← stepped]
  unfold FileTree.step at stepped ⊢
  split
  · rfl
  · next here =>
    rw [if_neg here] at stepped
    split
    · rfl
    · next up =>
      rw [if_neg up] at stepped
      split
      · rfl
      · next short =>
        rw [if_neg short] at stepped
        have different : directory ++ [name] ≠ location := by
          intro same
          rw [same] at stepped
          split at stepped
          · next found =>
            cases stepped
            exact vacant found
          · cases stepped
        rw [node?_put_of_ne different]

theorem walk_cons (tree : FileTree) (directory : Location) (name next : String)
    (others : List String) :
    tree.walk directory (name :: next :: others) =
      match tree.step directory name with
      | .error error => .error error
      | .ok (.free _) => .error .notFound
      | .ok (.existing _ (.file _)) => .error .notDirectory
      | .ok (.existing through .directory) => tree.walk through (next :: others) := rfl

theorem walk_leadsTo {directory : Location} {names : List String} {step : Step}
    (walked : tree.walk directory names = .ok step) (leads : step.LeadsTo location) :
    tree.Open location ∧ ∀ node, (tree.put location node).walk directory names =
      .ok (.existing location node) := by
  induction names generalizing directory with
  | nil =>
    cases walked
    cases leads
  | cons name rest ih =>
    cases rest with
    | nil => exact step_leadsTo walked leads
    | cons next others =>
      rw [walk_cons] at walked
      split at walked
      · cases walked
      · cases walked
      · cases walked
      · next through stepped =>
        rcases ih walked with ⟨vacant, found⟩
        refine ⟨vacant, ?_⟩
        intro node
        rw [walk_cons, step_put_of_directory vacant stepped node]
        exact found node

/-- A path is followed if it can be a path at all and the way it spells out
exists. -/
theorem follow_eq_ok_iff {path : String} {step : Step} :
    tree.follow path = .ok step ↔
      '\x00' ∉ path.toList ∧ path ≠ "" ∧ path.utf8ByteSize < maxPathLength ∧
        tree.walk (if Path.isAbsolute path then [] else tree.home) (Path.names path) =
          .ok step := by
  unfold follow
  split
  · next zero => simp [List.contains_iff_mem.mp zero]
  · next clean =>
    have clean : '\x00' ∉ path.toList := fun zero => clean (List.contains_iff_mem.mpr zero)
    split
    · next empty => simp [empty]
    · next named =>
      split
      · next long => simp [Nat.not_lt.mpr long]
      · next short =>
        rw [mapError_eq_ok_iff]
        simp [clean, named, Nat.lt_of_not_le short]

theorem follow_leadsTo {path : String} {step : Step} (followed : tree.follow path = .ok step)
    (leads : step.LeadsTo location) (node : Node) :
    (tree.put location node).follow path = .ok (.existing location node) := by
  rcases follow_eq_ok_iff.mp followed with ⟨clean, named, short, walked⟩
  exact follow_eq_ok_iff.mpr ⟨clean, named, short, (walk_leadsTo walked leads).2 node⟩

/-- A write does not go to a directory. -/
theorem leadsTo_of_writable {create : Bool} {path : String}
    (writable : tree.writable create path = .ok location) :
    Path.endsInSlash path = false ∧
      ∃ step : Step, tree.follow path = .ok step ∧ step.LeadsTo location := by
  unfold FileTree.writable at writable
  split at writable
  · cases writable
  · next old followed =>
    split at writable
    · cases writable
    · next plain =>
      cases writable
      exact ⟨eq_false_of_ne_true plain, _, followed, .existing old⟩
  · cases writable
  · next followed =>
    split at writable
    · split at writable
      · cases writable
      · next plain =>
        cases writable
        exact ⟨eq_false_of_ne_true plain, _, followed, .free⟩
    · cases writable

/-- A file can be made wherever no directory stands, unless the path asks for
one. -/
theorem writable_iff_leadsTo {path : String} :
    tree.writable true path = .ok location ↔
      Path.endsInSlash path = false ∧
        ∃ step : Step, tree.follow path = .ok step ∧ step.LeadsTo location := by
  refine ⟨leadsTo_of_writable, ?_⟩
  rintro ⟨plain, step, followed, leads⟩
  rw [FileTree.writable, followed]
  cases leads <;> simp [plain]

/-- What is written to a path is found there. -/
theorem find_put {create : Bool} {path : String}
    (writable : tree.writable create path = .ok location) (bytes : ByteArray) :
    (tree.put location (.file bytes)).find path = .ok (location, .file bytes) := by
  rcases leadsTo_of_writable writable with ⟨plain, step, followed, leads⟩
  rw [find, follow_leadsTo followed leads]
  dsimp only
  rw [plain]
  rfl

theorem fileExists_of_read {path : String} {bytes : ByteArray}
    (read : tree.read path = .ok bytes) : tree.fileExists path = true := by
  unfold FileTree.read content at read
  split at read
  · cases read
  · cases read
  · next found =>
    rw [fileExists, found]
    rfl

/-- A file is read as it was written. -/
theorem read_of_write {create : Bool} {path : String} {bytes : ByteArray} {written : FileTree}
    (done : tree.write create path bytes = .ok written) : written.read path = .ok bytes := by
  unfold write at done
  split at done
  · cases done
  · next writable =>
    cases done
    rw [read, content, find_put writable bytes]
    rfl

end FileTree
end FlashSlots
