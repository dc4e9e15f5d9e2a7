import FlashSlots.Proofs.FileTree.Writing

namespace FlashSlots

/-!
# A file is found from its directory

The path of a directory is spelled without the idle pieces at its end.  So the
path of a file need not be what joining its directory and its name gives; but
both lead to the same place.
-/

namespace Path

/-- The path of the directory above. -/
def parent? (path : String) : Option String := (parents path).head?

/-! ## Pieces -/

theorem split_ne_nil (separator : Char) (chars : List Char) : split separator chars ≠ [] := by
  cases chars with
  | nil => exact List.cons_ne_nil _ _
  | cons char rest =>
    rw [split]
    split
    · exact List.cons_ne_nil _ _
    · split <;> exact List.cons_ne_nil _ _

theorem split_append (separator : Char) (front back : List Char) :
    split separator (front ++ separator :: back) =
      split separator front ++ split separator back := by
  induction front with
  | nil =>
    show split separator (separator :: back) = [] :: split separator back
    rw [split, if_pos rfl]
  | cons char rest ih =>
    rw [List.cons_append, split, split, ih]
    split
    · rfl
    · cases shape : split separator rest with
      | nil => exact absurd shape (split_ne_nil _ _)
      | cons piece more => rfl

theorem split_of_notMem {separator : Char} {chars : List Char} (absent : separator ∉ chars) :
    split separator chars = [chars] := by
  induction chars with
  | nil => rfl
  | cons char rest ih =>
    rw [List.mem_cons, not_or] at absent
    rw [split, if_neg (Ne.symm absent.1), ih absent.2]

theorem notMem_of_mem_split {separator : Char} {chars piece : List Char}
    (member : piece ∈ split separator chars) : separator ∉ piece := by
  induction chars generalizing piece with
  | nil =>
    rw [split, List.mem_singleton] at member
    rw [member]
    exact List.not_mem_nil
  | cons char rest ih =>
    rw [split] at member
    split at member
    · rcases List.mem_cons.mp member with empty | inside
      · rw [empty]
        exact List.not_mem_nil
      · exact ih inside
    · next other =>
      cases shape : split separator rest with
      | nil => exact absurd shape (split_ne_nil _ _)
      | cons first more =>
        rw [shape] at member ih
        rcases List.mem_cons.mp member with longer | inside
        · rw [longer, List.mem_cons, not_or]
          exact ⟨fun same => other same.symm, ih List.mem_cons_self⟩
        · exact ih (List.mem_cons_of_mem _ inside)

/-- The text has no slash. -/
def Plain (piece : String) : Prop := '/' ∉ piece.toList

instance (piece : String) : Decidable (Plain piece) := inferInstanceAs (Decidable (_ ∉ _))

theorem plain_of_mem_pieces {path piece : String} (member : piece ∈ pieces path) :
    Plain piece := by
  rcases List.mem_map.mp member with ⟨chars, inside, rfl⟩
  rw [Plain, String.toList_ofList]
  exact notMem_of_mem_split inside

theorem pieces_of_plain {piece : String} (plain : Plain piece) : pieces piece = [piece] := by
  rw [pieces, split_of_notMem plain, List.map_singleton, String.ofList_toList]

theorem pieces_append (front back : String) :
    pieces (front ++ "/" ++ back) = pieces front ++ pieces back := by
  rw [pieces, String.toList_append, String.toList_append, List.append_assoc]
  exact (congrArg _ (split_append '/' front.toList back.toList)).trans List.map_append

theorem intercalate_pieces (path : String) : "/".intercalate (pieces path) = path := by
  rw [← String.toList_inj, String.toList_intercalate, pieces, List.map_map]
  have back : String.toList ∘ String.ofList = id := funext fun chars => String.toList_ofList
  rw [back, List.map_id]
  show ['/'].intercalate (split '/' path.toList) = path.toList
  induction path.toList with
  | nil => rfl
  | cons char rest ih =>
    rw [split]
    cases shape : split '/' rest with
    | nil => exact absurd shape (split_ne_nil _ _)
    | cons piece more =>
      rw [shape] at ih
      split
      · next slash =>
        rw [List.intercalate_cons_cons, ih, slash]
        rfl
      · next other =>
        rw [← ih]
        cases more with
        | nil => rfl
        | cons next others => rfl

theorem intercalate_snoc {front : List String} (nonempty : front ≠ []) (name : String) :
    "/".intercalate (front ++ [name]) = "/".intercalate front ++ "/" ++ name := by
  rw [String.intercalate_append_of_ne_nil nonempty (List.cons_ne_nil _ _),
    String.intercalate_singleton]

theorem isAbsolute_of_plain {name : String} (plain : Plain name) : isAbsolute name = false := by
  rw [isAbsolute, beq_eq_false_iff_ne]
  exact fun slash => plain (List.mem_of_head? slash)

theorem endsInSlash_of_plain {piece : String} (plain : Plain piece) :
    endsInSlash piece = false := by
  rw [endsInSlash, beq_eq_false_iff_ne]
  exact fun slash => plain (List.mem_of_getLast? slash)

theorem endsInSlash_append {back : String} (nonempty : back ≠ "") (front : String) :
    endsInSlash (front ++ back) = endsInSlash back := by
  have longer : back.toList ≠ [] := fun empty => nonempty (String.toList_eq_nil_iff.mp empty)
  rw [endsInSlash, endsInSlash, String.toList_append, List.getLast?_append,
    List.getLast?_eq_some_getLast longer, Option.some_or]

/-- A path that does not ask for a directory ends in a name. -/
theorem last_ne_empty {path last : String} {front : List String} (nonempty : path ≠ "")
    (plain : endsInSlash path = false) (shape : pieces path = front ++ [last]) : last ≠ "" := by
  rintro rfl
  have spelled : "/".intercalate (front ++ [""]) = path := by rw [← shape, intercalate_pieces]
  cases front with
  | nil => exact nonempty spelled.symm
  | cons first rest =>
    rw [← spelled, intercalate_snoc (List.cons_ne_nil _ _), String.append_empty,
      endsInSlash_append (by decide)] at plain
    exact absurd plain (by decide)

theorem isAbsolute_slash (front back : String) :
    isAbsolute (front ++ "/" ++ back) = isAbsolute (front ++ "/") := by
  cases shape : front.toList <;> simp [isAbsolute, shape]

theorem names_append (front back : String) :
    names (front ++ "/" ++ back) = names front ++ names back := by
  rw [names, pieces_append, List.filter_append]
  rfl

theorem names_of_plain {piece : String} (plain : Plain piece) (nonempty : piece ≠ "") :
    names piece = [piece] := by
  rw [names, pieces_of_plain plain]
  simp [nonempty]

theorem above_ne_nil (first : String) (rest : List String) : above first rest ≠ [] := by
  induction rest with
  | nil =>
    unfold above
    split <;> exact List.cons_ne_nil _ _
  | cons piece rest ih =>
    unfold above
    split
    · exact ih
    · exact List.cons_ne_nil _ _

end Path

namespace FileTree

open FlashSlots.Path (Plain)

variable {tree : FileTree}

/-! ## Pieces that lead nowhere -/

theorem walk_cons_of_ne_nil (tree : FileTree) (directory : Location) (name : String)
    {others : List String} (more : others ≠ []) :
    tree.walk directory (name :: others) =
      match tree.step directory name with
      | .error error => .error error
      | .ok (.free _) => .error .notFound
      | .ok (.existing _ (.file _)) => .error .notDirectory
      | .ok (.existing through .directory) => tree.walk through others := by
  cases others with
  | nil => exact absurd rfl more
  | cons next rest => rfl

theorem step_here (tree : FileTree) (directory : Location) :
    tree.step directory "." = .ok (.existing directory .directory) := rfl

/-- A dot on the way does not change where it leads. -/
theorem walk_skip (tree : FileTree) (directory : Location) (front : List String)
    {back : List String} (more : back ≠ []) :
    tree.walk directory (front ++ "." :: back) = tree.walk directory (front ++ back) := by
  induction front generalizing directory with
  | nil => rw [List.nil_append, walk_cons_of_ne_nil tree directory "." more, step_here]; rfl
  | cons name rest ih =>
    rw [List.cons_append, List.cons_append,
      walk_cons_of_ne_nil tree directory name (by simp),
      walk_cons_of_ne_nil tree directory name (by simp [more])]
    cases tree.step directory name with
    | error cause => rfl
    | ok reached =>
      cases reached with
      | free location => rfl
      | existing location node =>
        cases node with
        | file bytes => rfl
        | directory => exact ih location

/-- A dot at the end leads to a directory. -/
theorem walk_to_here {directory location : Location} {names : List String} {node : Node}
    (walked : tree.walk directory (names ++ ["."]) = .ok (.existing location node)) :
    node = .directory := by
  induction names generalizing directory with
  | nil =>
    cases walked
    rfl
  | cons name rest ih =>
    rw [List.cons_append, walk_cons_of_ne_nil tree directory name (by simp)] at walked
    split at walked
    · cases walked
    · cases walked
    · cases walked
    · exact ih walked

/-- An idle piece on the way can be left out. -/
theorem follow_skip {front piece back : String} {step : Step} (idle : Path.isIdle piece = true)
    (more : Path.names back ≠ [])
    (followed : tree.follow (front ++ "/" ++ piece ++ "/" ++ back) = .ok step) :
    tree.follow (front ++ "/" ++ back) = .ok step := by
  rcases follow_eq_ok_iff.mp followed with ⟨clean, -, short, walked⟩
  have way (directory : Location) :
      tree.walk directory (Path.names (front ++ "/" ++ piece ++ "/" ++ back)) =
        tree.walk directory (Path.names (front ++ "/" ++ back)) := by
    rw [Path.names_append, Path.names_append, Path.names_append, List.append_assoc]
    rw [Path.isIdle, Bool.or_eq_true, beq_iff_eq, beq_iff_eq] at idle
    rcases idle with rfl | rfl
    · rfl
    · exact walk_skip tree directory _ more
  have absolute : Path.isAbsolute (front ++ "/" ++ piece ++ "/" ++ back) =
      Path.isAbsolute (front ++ "/" ++ back) := by
    have regroup : front ++ "/" ++ piece ++ "/" = front ++ "/" ++ (piece ++ "/") :=
      String.append_assoc
    rw [Path.isAbsolute_slash, regroup, Path.isAbsolute_slash, Path.isAbsolute_slash front back]
  rw [way, absolute] at walked
  refine follow_eq_ok_iff.mpr ⟨?_, ?_, ?_, walked⟩
  · simp only [String.toList_append, List.mem_append] at clean ⊢
    exact fun inside => clean (inside.imp_left fun before => .inl (.inl before))
  · intro empty
    have sizes := congrArg String.utf8ByteSize empty
    have slash : "/".utf8ByteSize = 1 := rfl
    simp only [String.utf8ByteSize_append, slash, String.utf8ByteSize_empty] at sizes
    omega
  · simp only [String.utf8ByteSize_append] at short ⊢
    omega

theorem find_skip {front piece back : String} {found : Location × Node}
    (idle : Path.isIdle piece = true) (more : Path.names back ≠ [])
    (reached : tree.find (front ++ "/" ++ piece ++ "/" ++ back) = .ok found) :
    tree.find (front ++ "/" ++ back) = .ok found := by
  have nonempty : back ≠ "" := by
    rintro rfl
    exact more rfl
  unfold find at reached ⊢
  rw [Path.endsInSlash_append nonempty] at reached ⊢
  cases followed : tree.follow (front ++ "/" ++ piece ++ "/" ++ back) with
  | error cause =>
    rw [followed] at reached
    cases reached
  | ok step =>
    rw [followed] at reached
    rw [follow_skip idle more followed]
    exact reached

/-! ## The directory of a file -/

/-- The spelling of the directory drops the idle pieces at its end, one after
another. -/
theorem find_join_above {first name directory : String} (rest : List String)
    {found : Location × Node} (plain : Plain first) (others : ∀ piece ∈ rest, Plain piece)
    (single : Plain name) (named : name ≠ "")
    (above : (Path.above first rest).head? = some directory)
    (reached : tree.find ("/".intercalate (first :: rest.reverse) ++ "/" ++ name) = .ok found) :
    tree.find (Path.join directory name) = .ok found := by
  have relative : Path.isAbsolute name = false := Path.isAbsolute_of_plain single
  induction rest with
  | nil =>
    rw [List.reverse_nil, String.intercalate_singleton] at reached
    unfold Path.above at above
    split at above
    · next root =>
      cases above
      rw [root] at reached
      have joined : Path.join "/" name = "" ++ "/" ++ name := by
        rw [Path.join, relative]
        rfl
      rw [joined]
      exact reached
    · next nonempty =>
      cases above
      have joined : Path.join first name = first ++ "/" ++ name := by
        rw [Path.join, relative, Path.endsInSlash_of_plain plain]
        simp [nonempty]
      rw [joined]
      exact reached
  | cons piece rest ih =>
    have inner : Plain piece := others piece List.mem_cons_self
    have spelled : "/".intercalate (first :: (piece :: rest).reverse) =
        "/".intercalate (first :: rest.reverse) ++ "/" ++ piece := by
      rw [List.reverse_cons, ← List.cons_append]
      exact Path.intercalate_snoc (List.cons_ne_nil _ _) piece
    unfold Path.above at above
    split at above
    · next idle =>
      -- The directory is spelled without this piece, and the way does not need it.
      rw [spelled] at reached
      refine ih (fun other inside => others other (List.mem_cons_of_mem _ inside)) above ?_
      refine find_skip idle ?_ reached
      rw [Path.names_of_plain single named]
      exact List.cons_ne_nil _ _
    · next busy =>
      cases above
      have nonempty : piece ≠ "" := by
        rintro rfl
        exact busy rfl
      have joined : Path.join ("/".intercalate (first :: (piece :: rest).reverse)) name =
          "/".intercalate (first :: (piece :: rest).reverse) ++ "/" ++ name := by
        rw [Path.join, relative, spelled, Path.endsInSlash_append nonempty,
          Path.endsInSlash_of_plain inner]
        simp
      rw [joined]
      exact reached

/-- The way to a file is not cut short, and does not ask for a directory. -/
theorem walk_of_find {path : String} {location : Location} {bytes : ByteArray}
    (reached : tree.find path = .ok (location, .file bytes)) :
    path ≠ "" ∧ Path.endsInSlash path = false ∧
      ∃ start, tree.walk start (Path.names path) = .ok (.existing location (.file bytes)) := by
  unfold find at reached
  split at reached
  · cases reached
  · cases reached
  · next followed =>
    split at reached
    · cases reached
    · next plain =>
      cases reached
      rcases follow_eq_ok_iff.mp followed with ⟨-, nonempty, -, walked⟩
      exact ⟨nonempty, eq_false_of_ne_true plain, _, walked⟩
  · cases reached

/-- The last piece of a file's path is its name. -/
theorem pieces_of_find {path name : String} {location : Location} {bytes : ByteArray}
    (reached : tree.find path = .ok (location, .file bytes))
    (named : Path.fileName? path = some name) :
    name ≠ "" ∧ Path.isIdle name = false ∧ ∃ front, Path.pieces path = front ++ [name] := by
  rcases walk_of_find reached with ⟨nonempty, plain, start, walked⟩
  rcases List.eq_nil_or_concat (Path.pieces path) with empty | ⟨front, last, shape⟩
  · have text := Path.intercalate_pieces path
    rw [empty] at text
    exact absurd text.symm nonempty
  · rw [List.concat_eq_append] at shape
    -- A slash at the end or a last dot would ask for a directory.
    have filled := Path.last_ne_empty nonempty plain shape
    have names : Path.names path = front.filter (· != "") ++ [last] := by
      rw [Path.names, shape, List.filter_append]
      simp [filled]
    have moving : last ≠ "." := by
      rintro rfl
      rw [names] at walked
      cases walk_to_here walked
    have same : last = name := by
      rw [Path.fileName?, names, List.filter_append] at named
      simp [moving] at named
      exact named.2
    rw [← same]
    refine ⟨filled, ?_, front, shape⟩
    rw [Path.isIdle, beq_eq_false_iff_ne.mpr filled, beq_eq_false_iff_ne.mpr moving]
    rfl

/-- A file has a directory, and stands there under its name. -/
theorem find_join_parent {path name : String} {location : Location} {bytes : ByteArray}
    (reached : tree.find path = .ok (location, .file bytes))
    (named : Path.fileName? path = some name) :
    ∃ directory, Path.parent? path = some directory ∧
      tree.find (Path.join directory name) = .ok (location, .file bytes) := by
  have nonempty := (walk_of_find reached).1
  rcases pieces_of_find reached named with ⟨filled, busy, front, shape⟩
  have plain : ∀ piece ∈ front ++ [name], Plain piece := by
    rw [← shape]
    exact fun piece inside => Path.plain_of_mem_pieces inside
  have single : Plain name := plain name (by simp)
  have spelled : path = "/".intercalate (front ++ [name]) := by
    rw [← shape, Path.intercalate_pieces]
  cases front with
  | nil =>
    have joined : Path.join "" name = name := by
      rw [Path.join]
      simp
    rw [List.nil_append] at shape
    refine ⟨"", ?_, ?_⟩
    · rw [Path.parent?, Path.parents, shape]
      simp only [if_neg nonempty, List.reverse_nil, Path.above, if_neg filled]
      rfl
    · rw [joined]
      rw [spelled, List.nil_append, String.intercalate_singleton] at reached
      exact reached
  | cons first rest =>
    have reversed : (rest ++ [name]).reverse = name :: rest.reverse := by simp
    cases above : Path.above first rest.reverse with
    | nil => exact absurd above (Path.above_ne_nil first rest.reverse)
    | cons directory others =>
      refine ⟨directory, ?_, ?_⟩
      · rw [Path.parent?, Path.parents, shape, List.cons_append]
        simp only [if_neg nonempty, reversed, Path.above, busy]
        exact congrArg List.head? above
      · refine find_join_above rest.reverse (plain first (by simp)) ?_ single filled
          (congrArg List.head? above) ?_
        · intro piece inside
          exact plain piece (by simp [List.mem_reverse.mp inside])
        · rw [List.reverse_reverse, ← Path.intercalate_snoc (List.cons_ne_nil _ _), ← spelled]
          exact reached

end FileTree
end FlashSlots
