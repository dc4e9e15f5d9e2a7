import FlashSlots.Text.Blank

namespace FlashSlots
namespace Text

/-!
# Trimmed texts

Trimming takes blanks away at both ends and stops at the first character that
is none, so that a word without blanks is all that is left of a text in which it
stands alone.
-/

/-- Blanks are no capitals. -/
theorem toLower_of_isBlank {char : Char} (blank : isBlank char = true) : char.toLower = char := by
  delta Char.toLower
  refine dif_neg ?_
  rintro ⟨low, high⟩
  simp only [isBlank, Bool.or_eq_true, Bool.and_eq_true, decide_eq_true_eq, beq_iff_eq] at blank
  have above : 65 ≤ char.toNat := UInt32.le_iff_toNat_le.mp low
  have below : char.toNat ≤ 90 := UInt32.le_iff_toNat_le.mp high
  omega

section

variable {before word after : List Char} (solid : ∀ char ∈ word, isBlank char = false)

include solid

theorem dropWhile_isBlank_of_solid : word.dropWhile isBlank = word := by
  cases word with
  | nil => rfl
  | cons first rest =>
    exact List.dropWhile_cons_of_neg (Bool.eq_false_iff.mp (solid first List.mem_cons_self))

theorem solid_reverse : ∀ char ∈ word.reverse, isBlank char = false :=
  fun char inside => solid char (List.mem_reverse.mp inside)

theorem trim_of_solid : trim word = word := by
  rw [trim, dropWhile_isBlank_of_solid solid, dropWhile_isBlank_of_solid (solid_reverse solid),
    List.reverse_reverse]

theorem trim_of_blanks (full : word ≠ []) (front : ∀ char ∈ before, isBlank char = true)
    (back : ∀ char ∈ after, isBlank char = true) : trim (before ++ word ++ after) = word := by
  have started : (word ++ after).dropWhile isBlank = word ++ after := by
    rw [List.dropWhile_append, dropWhile_isBlank_of_solid solid,
      if_neg (mt List.isEmpty_iff.mp full)]
  rw [trim, List.append_assoc, List.dropWhile_append_of_pos front, started, List.reverse_append,
    List.dropWhile_append_of_pos fun char inside => back char (List.mem_reverse.mp inside),
    dropWhile_isBlank_of_solid (solid_reverse solid), List.reverse_reverse]

end

/-- What is trimmed away is blank. -/
theorem exists_blanks (chars : List Char) :
    ∃ before after, chars = before ++ trim chars ++ after ∧
      (∀ char ∈ before, isBlank char = true) ∧ ∀ char ∈ after, isBlank char = true := by
  have blank (chars : List Char) : ∀ char ∈ chars.takeWhile isBlank, isBlank char = true :=
    List.all_eq_true.mp List.all_takeWhile
  have back : (chars.dropWhile isBlank).reverse.takeWhile isBlank ++
      (chars.dropWhile isBlank).reverse.dropWhile isBlank = (chars.dropWhile isBlank).reverse :=
    List.takeWhile_append_dropWhile
  refine ⟨chars.takeWhile isBlank,
    ((chars.dropWhile isBlank).reverse.takeWhile isBlank).reverse, ?_, blank _,
    fun char inside => blank _ char (List.mem_reverse.mp inside)⟩
  rw [trim, List.append_assoc, ← List.reverse_append, back, List.reverse_reverse,
    List.takeWhile_append_dropWhile]

end Text
end FlashSlots
