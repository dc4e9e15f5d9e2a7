import FlashSlots.Proofs.FileTree.Parent
import FlashSlots.Proofs.Tar.Header

namespace FlashSlots

/-!
# Names in an archive

The name of a single file either stands in its header as a whole, or there is an
entry for it in front of the header.  In both cases what a reader takes for the
name is the name that was written.
-/

namespace Path

/-- The text is the name of a file, without a directory. -/
def IsName (name : String) : Prop := fileName? name = some name

instance (name : String) : Decidable (IsName name) :=
  inferInstanceAs (Decidable (fileName? name = some name))

theorem IsName.facts {name : String} (single : IsName name) :
    Plain name ∧ name ≠ "" ∧ name ≠ "." ∧ name ≠ ".." := by
  unfold IsName fileName? at single
  split at single
  · next last found =>
    split at single
    · cases single
    · next down =>
      have same : last = name := Option.some.inj single
      rw [same] at found down
      have member := List.mem_of_getLast? found
      rw [List.mem_filter, names, List.mem_filter, bne_iff_ne, bne_iff_ne] at member
      exact ⟨plain_of_mem_pieces member.1.1, member.1.2, member.2, down⟩
  · cases single

end Path

namespace Tar

open FlashSlots.Path (IsName Plain)

/-! ## Putting a name into its field -/

/-- Nothing that is put into a field makes it too long. -/
theorem Slot.length_put {slot next : Slot} {part : List UInt8}
    (fits : slot.held.length ≤ nameSize) (done : slot.put part = .ok next) :
    next.held.length ≤ nameSize := by
  unfold Slot.put at done
  split at done
  · cases done
  · next room =>
    rw [Bool.or_eq_true, decide_eq_true_eq, not_or] at room
    cases done
    dsimp only
    split
    · simp only [List.append_nil, List.length_append, List.length_take]
      omega
    · simp only [List.length_append, List.length_take, List.length_cons, List.length_drop]
      omega

theorem length_putParts {cut alone first : Bool} {slot next : Slot} {parts : List Part}
    (fits : slot.held.length ≤ nameSize)
    (done : putParts cut alone first slot parts = .ok next) : next.held.length ≤ nameSize := by
  induction parts generalizing first slot with
  | nil =>
    cases done
    exact fits
  | cons part rest ih =>
    unfold putParts at done
    dsimp only at done
    split at done
    · cases done
    · exact ih fits done
    · next text _ _ =>
      -- Whether a slash has been put or not, the rest is put behind what is there.
      have behind {before : Slot} (room : before.held.length ≤ nameSize)
          (put : (before.put (octets text) >>= fun slot =>
            putParts cut alone false slot rest) = .ok next) : next.held.length ≤ nameSize := by
        rcases bind_eq_ok_iff.mp put with ⟨after, written, put⟩
        exact ih (Slot.length_put room written) put
      split at done
      · exact behind fits done
      · rcases bind_eq_ok_iff.mp done with ⟨before, separated, done⟩
        exact behind (Slot.length_put fits separated) done

theorem length_putName {cut : Bool} {slot next : Slot} {name : String}
    (fits : slot.held.length ≤ nameSize) (done : putName cut slot name = .ok next) :
    next.held.length ≤ nameSize := by
  unfold putName at done
  split at done
  · cases done
  · rcases bind_eq_ok_iff.mp done with ⟨filled, put, done⟩
    have start : { slot with used := 0 }.held.length ≤ nameSize := fits
    have room : filled.held.length ≤ nameSize := length_putParts start put
    split at done
    · exact Slot.length_put room done
    · cases done
      exact room

/-! ## Names of single files -/

theorem parts_of_name {name : String} (single : IsName name) : parts name = [.name name] := by
  rcases single.facts with ⟨plain, nonempty, moving, down⟩
  rw [parts, Path.names_of_plain plain nonempty, Path.isAbsolute_of_plain plain]
  simp [moving, down]

theorem putName_of_name {name : String} (single : IsName name) :
    putName false .empty name = Slot.empty.put (octets name) := by
  rcases single.facts with ⟨plain, nonempty, -, -⟩
  have whole : putParts false true true .empty [.name name] = Slot.empty.put (octets name) := by
    simp only [putParts, ↓reduceIte, bind, Except.bind]
    cases Slot.empty.put (octets name) <;> rfl
  rw [putName, parts_of_name single, Path.endsInSlash_of_plain plain]
  show (do
    let slot ← putParts false true true .empty [.name name]
    if false then slot.put [0x2F] else .ok slot) = _
  rw [whole]
  cases Slot.empty.put (octets name) <;> rfl

theorem put_empty (part : List UInt8) :
    Slot.empty.put part =
      if nameSize < part.length ∨ 0 ∈ part then .error .empty
      else .ok ⟨part ++ if part.length = nameSize then [] else [0], part.length⟩ := by
  rw [Slot.put, Slot.empty]
  simp only [Nat.zero_add, Bool.or_eq_true, decide_eq_true_eq, List.contains_iff_mem,
    List.take_nil, List.nil_append, List.drop_nil]

/-- An octet string without zeros is read from a field that it fits into. -/
theorem text_filled {part : List UInt8} (nonzero : 0 ∉ part) :
    text (filled nameSize (part ++ if part.length = nameSize then [] else [0])) = part := by
  rw [filled]
  split
  · next full =>
    have whole := text_append nonzero []
    rw [List.append_nil] at whole
    rw [List.append_nil, full, Nat.sub_self, List.replicate_zero, List.append_nil, whole]
    exact List.append_nil part
  · rw [List.append_assoc]
    exact text_of_append nonzero _

/-- A name either fits into its field, or an entry for it stands in front. -/
theorem nameField?_of_name {name : String} {front : ByteArray} {field : List UInt8}
    (single : IsName name) (named : nameField? name = some (front, field)) :
    field.length ≤ nameSize ∧
      (front = .empty ∧ text (filled nameSize field) = octets name ∨
        front = longNameEntry name) := by
  have empty : Slot.empty.held.length ≤ nameSize := Nat.zero_le _
  have put := putName_of_name single
  rw [put_empty] at put
  unfold nameField? at named
  rw [put] at named
  by_cases long : nameSize < (octets name).length ∨ 0 ∈ octets name
  · rw [if_pos long] at named
    dsimp only at named
    split at named
    · cases named
    · split at named
      · next cut =>
        cases named
        exact ⟨length_putName empty cut, .inr rfl⟩
      · cases named
  · rw [if_neg long] at put named
    rw [not_or] at long
    cases named
    exact ⟨length_putName empty put, .inl ⟨rfl, text_filled long.2⟩⟩

/-- The name fits into its field as it is. -/
def IsShort (name : String) : Prop :=
  IsName name ∧ (octets name).length ≤ nameSize ∧ 0 ∉ octets name

instance (name : String) : Decidable (IsShort name) :=
  inferInstanceAs (Decidable (_ ∧ _ ∧ _))

/-- A short name is never refused. -/
theorem nameField?_of_short {name : String} (short : IsShort name) :
    ∃ field, field.length ≤ nameSize ∧ nameField? name = some (.empty, field) := by
  rcases short with ⟨single, fits, nonzero⟩
  have put := putName_of_name single
  have room : ¬ (nameSize < (octets name).length ∨ 0 ∈ octets name) := by
    rw [not_or]
    exact ⟨Nat.not_lt.mpr fits, nonzero⟩
  rw [put_empty, if_neg room] at put
  refine ⟨_, length_putName (Nat.zero_le _) put, ?_⟩
  rw [nameField?, put]

end Tar
end FlashSlots
