import FlashSlots.Json.Reader
import Mathlib.Data.List.Forall2

namespace FlashSlots
namespace Json

/-!
# The grammar of JSON

Here the grammar stands on its own: which octets a value may be written with.
Blanks may stand around every value, key and bracket, a character of a string
may be written in several ways, and a number may have a sign, a fraction and an
exponent.  The reader gets the value back from each of its spellings.

The statement about the machine is more general than the one about documents.
It starts in the middle of a document: with any frames still open, and with
anything behind the value that cannot continue a number.
-/

/-! ## The rules -/

def Blanks (octets : List UInt8) : Prop := ∀ byte ∈ octets, isBlank byte = true

/-- The octet is this hexadecimal digit, in either case. -/
def IsHex (value : Nat) (byte : UInt8) : Prop :=
  (ascii "0123456789abcdef")[value]? = some byte ∨ (ascii "0123456789ABCDEF")[value]? = some byte

/-- The letters of the short escapes, with the octets that they stand for. -/
def shortEscapes : List (UInt8 × UInt8) :=
  [(0x22, 0x22), (0x5C, 0x5C), (0x2F, 0x2F), (0x62, 0x08), (0x66, 0x0C), (0x6E, 0x0A), (0x72, 0x0D),
    (0x74, 0x09)]

/-- How a piece may be written between quotes. -/
inductive Piece.Spelled : Piece -> List UInt8 -> Prop where
  | plain {byte : UInt8} (visible : 0x20 ≤ byte) (noQuote : byte ≠ 0x22)
      (noBackslash : byte ≠ 0x5C) : Spelled (.octet byte) [byte]
  | short {letter byte : UInt8} (listed : (letter, byte) ∈ shortEscapes) :
    Spelled (.octet byte) [0x5C, letter]
  | unit {first second third fourth : Nat} {a b c d : UInt8} (firstDigit : IsHex first a)
      (secondDigit : IsHex second b) (thirdDigit : IsHex third c) (fourthDigit : IsHex fourth d) :
    Spelled (.ofUnit (first * 0x1000 + second * 0x100 + third * 0x10 + fourth))
      [0x5C, 0x75, a, b, c, d]

/-- The octets are the pieces, one after the other, between quotes. -/
def Quoted (pieces : List Piece) (octets : List UInt8) : Prop :=
  ∃ parts, List.Forall₂ Piece.Spelled pieces parts ∧ octets = 0x22 :: (parts.flatten ++ [0x22])

/-- One digit or more. -/
def Digits (octets : List UInt8) : Prop := octets ≠ [] ∧ ∀ byte ∈ octets, Text.isDigit byte = true

inductive Fraction : List UInt8 -> Prop where
  | none : Fraction []
  | point {octets : List UInt8} (digits : Digits octets) : Fraction (0x2E :: octets)

inductive Exponent : List UInt8 -> Prop where
  | none : Exponent []
  | power {letter : UInt8} {sign octets : List UInt8} (marked : letter = 0x65 ∨ letter = 0x45)
      (signed : sign = [] ∨ sign = [0x2B] ∨ sign = [0x2D]) (digits : Digits octets) :
    Exponent (letter :: (sign ++ octets))

/-- What the grammar has rules for. -/
inductive Phrase where
  | value (value : Value)
  /-- A value with the blanks around it. -/
  | element (value : Value)
  | items (items : List Value)
  | member (key : List Piece) (value : Value)
  | members (members : List (List Piece × Value))

/-- How a phrase may be written. -/
inductive Spells : Phrase -> List UInt8 -> Prop where
  | null : Spells (.value .null) (ascii "null")
  | yes : Spells (.value (.bool true)) (ascii "true")
  | no : Spells (.value (.bool false)) (ascii "false")
  | natural (n : Nat) : Spells (.value (.natural n)) (Text.decimal n)
  | number {sign fraction exponent : List UInt8} (signed : sign = [] ∨ sign = [0x2D]) (n : Nat)
      (broken : Fraction fraction) (scaled : Exponent exponent)
      (other : ¬ (sign = [] ∧ fraction = [] ∧ exponent = [])) :
    Spells (.value .otherNumber) (sign ++ (Text.decimal n ++ (fraction ++ exponent)))
  | text {pieces : List Piece} {octets : List UInt8} (quoted : Quoted pieces octets) :
    Spells (.value (.text pieces)) octets
  | emptyList {octets : List UInt8} (blanks : Blanks octets) :
    Spells (.value (.list [])) (0x5B :: (octets ++ [0x5D]))
  | list {items : List Value} {octets : List UInt8} (inside : Spells (.items items) octets) :
    Spells (.value (.list items)) (0x5B :: (octets ++ [0x5D]))
  | emptyObject {octets : List UInt8} (blanks : Blanks octets) :
    Spells (.value (.object [])) (0x7B :: (octets ++ [0x7D]))
  | object {members : List (List Piece × Value)} {octets : List UInt8}
      (inside : Spells (.members members) octets) :
    Spells (.value (.object members)) (0x7B :: (octets ++ [0x7D]))
  | element {value : Value} {before octets behind : List UInt8} (front : Blanks before)
      (inside : Spells (.value value) octets) (back : Blanks behind) :
    Spells (.element value) (before ++ (octets ++ behind))
  | lastItem {item : Value} {octets : List UInt8} (last : Spells (.element item) octets) :
    Spells (.items [item]) octets
  | nextItem {item : Value} {items : List Value} {octets others : List UInt8}
      (first : Spells (.element item) octets) (later : Spells (.items items) others) :
    Spells (.items (item :: items)) (octets ++ 0x2C :: others)
  | member {key : List Piece} {value : Value} {before name behind octets : List UInt8}
      (front : Blanks before) (quoted : Quoted key name) (back : Blanks behind)
      (inside : Spells (.element value) octets) :
    Spells (.member key value) (before ++ (name ++ (behind ++ 0x3A :: octets)))
  | lastMember {key : List Piece} {value : Value} {octets : List UInt8}
      (last : Spells (.member key value) octets) :
    Spells (.members [(key, value)]) octets
  | nextMember {key : List Piece} {value : Value} {members : List (List Piece × Value)}
      {octets others : List UInt8} (first : Spells (.member key value) octets)
      (later : Spells (.members members) others) :
    Spells (.members ((key, value) :: members)) (octets ++ 0x2C :: others)

/-! ## Blanks -/

@[simp]
theorem skipBlanks_append {blanks : List UInt8} (front : Blanks blanks) (rest : List UInt8) :
    skipBlanks (blanks ++ rest) = skipBlanks rest :=
  List.dropWhile_append_of_pos front

theorem skipBlanks_of_visible (byte : UInt8) (tail : List UInt8) (visible : isBlank byte = false) :
    skipBlanks (byte :: tail) = byte :: tail := by
  simp [skipBlanks, visible]

/-! ## Strings -/

theorem hexDigit?_of_isHex {value : Nat} {byte : UInt8} (digit : IsHex value byte) :
    hexDigit? byte = some value := by
  have lower : ∀ value < 16, (ascii "0123456789abcdef")[value]?.bind hexDigit? = some value := by
    decide
  have upper : ∀ value < 16, (ascii "0123456789ABCDEF")[value]?.bind hexDigit? = some value := by
    decide
  rcases digit with listed | listed
  · have read := lower value (List.getElem?_eq_some_iff.mp listed).1
    rwa [listed] at read
  · have read := upper value (List.getElem?_eq_some_iff.mp listed).1
    rwa [listed] at read

theorem unit?_of_isHex {first second third fourth : Nat} {a b c d : UInt8} (firstDigit : IsHex first a)
    (secondDigit : IsHex second b) (thirdDigit : IsHex third c) (fourthDigit : IsHex fourth d) :
    unit? a b c d = some (first * 0x1000 + second * 0x100 + third * 0x10 + fourth) := by
  simp only [unit?, hexDigit?_of_isHex firstDigit, hexDigit?_of_isHex secondDigit,
    hexDigit?_of_isHex thirdDigit, hexDigit?_of_isHex fourthDigit, Option.bind_eq_bind,
    Option.bind_some, Option.pure_def]

theorem shortEscape?_of_mem {escape : UInt8 × UInt8} (listed : escape ∈ shortEscapes) :
    escape.1 ≠ 0x75 ∧ shortEscape? escape.1 = some escape.2 := by
  simp only [shortEscapes, List.mem_cons, List.not_mem_nil, or_false] at listed
  rcases listed with same | same | same | same | same | same | same | same
  all_goals
    subst same
    exact ⟨by decide, rfl⟩

theorem readPieces_unit {done : List Piece} {a b c d : UInt8} {code : Nat} {rest : List UInt8}
    (named : unit? a b c d = some code) :
    readPieces done (0x5C :: 0x75 :: a :: b :: c :: d :: rest) =
      readPieces (Piece.ofUnit code :: done) rest := by
  rw [readPieces, named]

theorem readPieces_short {done : List Piece} {letter byte : UInt8} {rest : List UInt8}
    (different : letter ≠ 0x75) (short : shortEscape? letter = some byte) :
    readPieces done (0x5C :: letter :: rest) = readPieces (.octet byte :: done) rest := by
  rw [readPieces, short]
  intro a b c d tail impossible
  exact absurd impossible different

theorem readPieces_plain {done : List Piece} {byte : UInt8} {rest : List UInt8}
    (visible : 0x20 ≤ byte) (noQuote : byte ≠ 0x22) (noBackslash : byte ≠ 0x5C) :
    readPieces done (byte :: rest) = readPieces (.octet byte :: done) rest := by
  rw [readPieces]
  · rw [if_neg]
    simp [visible, noBackslash]
  · exact noQuote
  · intro a b c d tail impossible
    exact absurd impossible noBackslash
  · intro letter tail impossible
    exact absurd impossible noBackslash

theorem readPieces_spelled (done : List Piece) {piece : Piece} {octets : List UInt8}
    (spelled : piece.Spelled octets) (rest : List UInt8) :
    readPieces done (octets ++ rest) = readPieces (piece :: done) rest := by
  cases spelled with
  | plain visible noQuote noBackslash => exact readPieces_plain visible noQuote noBackslash
  | short listed =>
    rcases shortEscape?_of_mem listed with ⟨different, short⟩
    exact readPieces_short different short
  | unit firstDigit secondDigit thirdDigit fourthDigit =>
    exact readPieces_unit (unit?_of_isHex firstDigit secondDigit thirdDigit fourthDigit)

/-- The pieces up to the closing quote, behind those that were read before. -/
theorem readPieces_quoted (done : List Piece) {pieces : List Piece} {parts : List (List UInt8)}
    (spelled : List.Forall₂ Piece.Spelled pieces parts) (rest : List UInt8) :
    readPieces done (parts.flatten ++ 0x22 :: rest) = some (done.reverse ++ pieces, rest) := by
  induction spelled generalizing done with
  | nil => simp [readPieces]
  | cons first _ ih =>
    rw [List.flatten_cons, List.append_assoc, readPieces_spelled done first, ih]
    simp

theorem readText_quoted {pieces : List Piece} {octets : List UInt8} (quoted : Quoted pieces octets)
    (rest : List UInt8) : readText (octets ++ rest) = some (pieces, rest) := by
  rcases quoted with ⟨parts, spelled, same⟩
  have read := readPieces_quoted [] spelled rest
  subst same
  rwa [List.cons_append, List.append_assoc]

/-- A string starts with a quote. -/
theorem Quoted.head {pieces : List Piece} {octets : List UInt8} (quoted : Quoted pieces octets) :
    ∃ tail, octets = 0x22 :: tail := by
  rcases quoted with ⟨parts, _, same⟩
  exact ⟨_, same⟩

theorem readKey_quoted {key : List Piece} {before name behind : List UInt8} (front : Blanks before)
    (quoted : Quoted key name) (back : Blanks behind) (rest : List UInt8) :
    readKey (before ++ (name ++ (behind ++ 0x3A :: rest))) = some (key, rest) := by
  rcases quoted.head with ⟨tail, start⟩
  have visible : skipBlanks (name ++ (behind ++ 0x3A :: rest)) = name ++ (behind ++ 0x3A :: rest) := by
    rw [start]
    exact skipBlanks_of_visible _ _ rfl
  have colon := skipBlanks_of_visible 0x3A rest rfl
  rw [readKey, skipBlanks_append front, visible, readText_quoted quoted]
  dsimp only
  rw [skipBlanks_append back, colon]
  rfl

/-! ## Numbers -/

/-- Nothing follows that could continue a number. -/
def Ends (rest : List UInt8) : Prop :=
  ∀ byte ∈ rest.head?, isBlank byte = true ∨ byte = 0x2C ∨ byte = 0x5D ∨ byte = 0x7D

/-- No digit follows. -/
def NoDigit (rest : List UInt8) : Prop := ∀ byte ∈ rest.head?, Text.isDigit byte = false

theorem noDigit_cons {byte : UInt8} (rest : List UInt8) (different : Text.isDigit byte = false) :
    NoDigit (byte :: rest) := by
  intro first same
  cases same
  exact different

theorem ends_nil : Ends [] := nofun

theorem ends_cons {byte : UInt8} (rest : List UInt8)
    (delimiter : isBlank byte = true ∨ byte = 0x2C ∨ byte = 0x5D ∨ byte = 0x7D) :
    Ends (byte :: rest) := by
  intro first same
  cases same
  exact delimiter

/-- Blanks do not keep a number from ending. -/
theorem Ends.after_blanks {blanks rest : List UInt8} (front : Blanks blanks) (ends : Ends rest) :
    Ends (blanks ++ rest) := by
  cases blanks with
  | nil => exact ends
  | cons byte tail => exact ends_cons _ (.inl (front byte List.mem_cons_self))

/-- What ends a number is no digit, no point and no mark of an exponent. -/
theorem Ends.classes {byte : UInt8} {tail : List UInt8} (ends : Ends (byte :: tail)) :
    Text.isDigit byte = false ∧ byte ≠ 0x2E ∧ byte ≠ 0x65 ∧ byte ≠ 0x45 := by
  have delimiter := ends byte rfl
  revert delimiter
  unfold isBlank Text.isDigit
  grind

theorem Ends.noDigit {rest : List UInt8} (ends : Ends rest) : NoDigit rest := by
  cases rest with
  | nil => nofun
  | cons byte tail => exact noDigit_cons tail ends.classes.1

theorem takeWhile_digits {digits rest : List UInt8} (allDigits : ∀ byte ∈ digits, Text.isDigit byte)
    (noDigit : NoDigit rest) : (digits ++ rest).takeWhile Text.isDigit = digits := by
  rw [List.takeWhile_append_of_pos allDigits]
  cases rest with
  | nil => simp
  | cons byte tail => simp [noDigit byte rfl]

theorem dropWhile_digits {digits rest : List UInt8} (allDigits : ∀ byte ∈ digits, Text.isDigit byte)
    (noDigit : NoDigit rest) : (digits ++ rest).dropWhile Text.isDigit = rest := by
  have whole := List.takeWhile_append_dropWhile (p := Text.isDigit) (l := digits ++ rest)
  rw [takeWhile_digits allDigits noDigit] at whole
  exact List.append_cancel_left whole

theorem skipDigits1_digits {digits rest : List UInt8} (allDigits : Digits digits)
    (noDigit : NoDigit rest) : skipDigits1 (digits ++ rest) = some rest := by
  rcases allDigits with ⟨nonempty, allDigits⟩
  cases digits with
  | nil => exact absurd rfl nonempty
  | cons byte tail =>
    have others : ∀ other ∈ tail, Text.isDigit other :=
      fun other listed => allDigits other (List.mem_cons_of_mem byte listed)
    rw [List.cons_append, skipDigits1, if_pos (allDigits byte List.mem_cons_self),
      dropWhile_digits others noDigit]

theorem skipExponent_of_ends {rest : List UInt8} (ends : Ends rest) :
    skipExponent rest = some rest := by
  cases rest with
  | nil => rfl
  | cons byte tail =>
    rcases ends.classes with ⟨_, _, small, capital⟩
    simp [skipExponent, small, capital]

/-- A run of digits starts with no sign. -/
theorem Digits.ne_sign {digits rest tail : List UInt8} (allDigits : Digits digits) {sign : UInt8}
    (noDigit : Text.isDigit sign = false) : digits ++ rest ≠ sign :: tail := by
  rcases allDigits with ⟨nonempty, allDigits⟩
  cases digits with
  | nil => exact absurd rfl nonempty
  | cons byte others =>
    intro same
    have digit := allDigits byte List.mem_cons_self
    rw [(List.cons.inj same).1, noDigit] at digit
    cases digit

theorem skipExponent_exponent {exponent rest : List UInt8} (scaled : Exponent exponent)
    (ends : Ends rest) : skipExponent (exponent ++ rest) = some rest := by
  cases scaled with
  | none => exact skipExponent_of_ends ends
  | @power letter sign octets marked signed digits =>
    have behind := skipDigits1_digits digits ends.noDigit
    have marks : (letter = 0x65 || letter = 0x45) = true := by simpa using marked
    rcases signed with same | same | same <;> subst same
    · rw [List.nil_append, List.cons_append, skipExponent, if_pos marks, behind]
      · exact fun _ => digits.ne_sign rfl
      · exact fun _ => digits.ne_sign rfl
    · rw [List.singleton_append, List.cons_append, List.cons_append, skipExponent, if_pos marks,
        behind]
    · rw [List.singleton_append, List.cons_append, List.cons_append, skipExponent, if_pos marks,
        behind]

theorem skipFraction_of_exponent {exponent rest : List UInt8} (scaled : Exponent exponent)
    (ends : Ends rest) : skipFraction (exponent ++ rest) = some rest := by
  rw [← skipExponent_exponent scaled ends]
  cases scaled with
  | none =>
    cases rest with
    | nil => rfl
    | cons byte tail =>
      rw [List.nil_append, skipFraction]
      intro digits same
      exact ends.classes.2.1 (List.cons.inj same).1
  | power marked signed digits =>
    rw [List.cons_append, skipFraction]
    intro others same
    rcases marked with letter | letter
    · exact absurd (letter.symm.trans (List.cons.inj same).1) (by decide)
    · exact absurd (letter.symm.trans (List.cons.inj same).1) (by decide)

/-- An exponent or what ends a number does not start with a digit. -/
theorem Exponent.noDigit {exponent rest : List UInt8} (scaled : Exponent exponent)
    (ends : Ends rest) : NoDigit (exponent ++ rest) := by
  cases scaled with
  | none => exact ends.noDigit
  | power marked signed digits =>
    apply noDigit_cons
    rcases marked with same | same <;> subst same <;> rfl

theorem skipFraction_fraction {fraction exponent rest : List UInt8} (broken : Fraction fraction)
    (scaled : Exponent exponent) (ends : Ends rest) :
    skipFraction (fraction ++ (exponent ++ rest)) = some rest := by
  cases broken with
  | none => exact skipFraction_of_exponent scaled ends
  | point digits =>
    rw [List.cons_append, skipFraction, skipDigits1_digits digits (scaled.noDigit ends),
      Option.bind_eq_bind, Option.bind_some, skipExponent_exponent scaled ends]

theorem Fraction.noDigit {fraction exponent rest : List UInt8} (broken : Fraction fraction)
    (scaled : Exponent exponent) (ends : Ends rest) :
    NoDigit (fraction ++ (exponent ++ rest)) := by
  cases broken with
  | none => exact scaled.noDigit ends
  | point digits => exact noDigit_cons _ rfl

/-- A numeral starts with a digit, and with a zero only if it is one. -/
theorem decimal_head (n : Nat) : ∃ byte tail, Text.decimal n = byte :: tail ∧
    Text.isDigit byte = true ∧ (byte = 0x30 -> tail = []) := by
  induction n using Nat.strongRecOn with
  | ind n ih =>
    by_cases small : n < 10
    · exact ⟨_, _, Text.decimal_of_lt small, Text.isDigit_digitOf small, fun _ => rfl⟩
    · rcases ih (n / 10) (by omega) with ⟨byte, tail, front, digit, zero⟩
      refine ⟨byte, tail ++ [Text.digitOf (n % 10)], ?_, digit, ?_⟩
      · rw [Text.decimal_of_ge (by omega), front, List.cons_append]
      · intro same
        have value := Text.decimalValue_decimal (n / 10)
        rw [front, zero same, same] at value
        have nonzero : n / 10 ≠ 0 := by omega
        exact absurd value.symm nonzero

theorem readWhole_decimal (n : Nat) {rest : List UInt8} (noDigit : NoDigit rest) :
    readWhole (Text.decimal n ++ rest) = some (Text.decimal n, rest) := by
  rcases decimal_head n with ⟨byte, tail, front, digit, zero⟩
  have allDigits : ∀ other ∈ tail, Text.isDigit other := by
    intro other member
    apply Text.isDigit_of_mem_decimal (n := n)
    rw [front]
    exact List.mem_cons_of_mem byte member
  rw [front, List.cons_append]
  by_cases same : byte = 0x30
  · rw [zero same, same]
    cases rest with
    | nil => rfl
    | cons next behind =>
      have different := noDigit next rfl
      simp [readWhole, different]
  · rw [readWhole, if_pos digit, takeWhile_digits allDigits noDigit,
      dropWhile_digits allDigits noDigit]
    intro impossible
    exact absurd impossible same

/-- The sign, the fraction and the exponent decide which numbers are natural. -/
theorem readNumber_number {sign fraction exponent : List UInt8} (signed : sign = [] ∨ sign = [0x2D])
    (n : Nat) (broken : Fraction fraction) (scaled : Exponent exponent) {rest : List UInt8}
    (ends : Ends rest) :
    readNumber (sign ++ (Text.decimal n ++ (fraction ++ (exponent ++ rest)))) =
      some (if sign = [] ∧ fraction = [] ∧ exponent = [] then .natural n else .otherNumber,
        rest) := by
  have whole := readWhole_decimal n (broken.noDigit scaled ends)
  have behind := skipFraction_fraction broken scaled ends
  rcases signed with same | same <;> subst same
  · rcases decimal_head n with ⟨byte, tail, front, digit, _⟩
    have noSign : byte ≠ 0x2D := by
      intro same
      subst same
      cases digit
    have length : rest.length = (fraction ++ (exponent ++ rest)).length ↔
        fraction = [] ∧ exponent = [] := by
      simp only [List.length_append, ← List.length_eq_zero_iff]
      omega
    rw [List.nil_append, front, List.cons_append, readNumber]
    · rw [← List.cons_append, ← front, whole]
      simp only [behind, Option.bind_eq_bind, Option.bind_some, Option.pure_def, length,
        Text.decimalValue_decimal, true_and]
    · intro input same
      exact noSign (List.cons.inj same).1
  · rw [List.singleton_append, readNumber, whole]
    simp only [behind, Option.bind_eq_bind, Option.bind_some, Option.pure_def, List.cons_ne_nil,
      false_and, if_false]

/-! ## What the machine does with each delimiter -/

/-- Where a value is due, blanks are skipped. -/
theorem run_blanks {blanks : List UInt8} (front : Blanks blanks) (frames : List Frame)
    (rest : List UInt8) : run .value frames (blanks ++ rest) = run .value frames rest := by
  rw [run, skipBlanks_append front]
  conv => rhs; rw [run]

/-- Behind a value that is inside another one, blanks are skipped. -/
theorem deliver_blanks {blanks : List UInt8} (front : Blanks blanks) (value : Value) (frame : Frame)
    (outer : List Frame) (rest : List UInt8) :
    run (.deliver value) (frame :: outer) (blanks ++ rest) =
      run (.deliver value) (frame :: outer) rest := by
  cases frame with
  | list done =>
    rw [run, skipBlanks_append front]
    conv => rhs; rw [run]
  | object done key =>
    rw [run, skipBlanks_append front]
    conv => rhs; rw [run]

theorem run_scalar {value : Value} {frames : List Frame} (byte : UInt8) (tail : List UInt8)
    {rest : List UInt8} (visible : isBlank byte = false) (noList : byte ≠ 0x5B)
    (noObject : byte ≠ 0x7B) (read : readScalar (byte :: tail) = some (value, rest)) :
    run .value frames (byte :: tail) = run (.deliver value) frames rest := by
  have start := skipBlanks_of_visible byte tail visible
  rw [run]
  split
  · next same =>
    rw [start] at same
    exact absurd (List.cons.inj same).1 noList
  · next same =>
    rw [start] at same
    exact absurd (List.cons.inj same).1 noObject
  · split
    · next second =>
      rw [start, read] at second
      cases second
      rfl
    · next impossible =>
      rw [start, read] at impossible
      cases impossible

theorem run_emptyList {blanks : List UInt8} (inside : Blanks blanks) (frames : List Frame)
    (rest : List UInt8) :
    run .value frames (0x5B :: (blanks ++ 0x5D :: rest)) =
      run (.deliver (.list [])) frames rest := by
  have closed : skipBlanks (blanks ++ 0x5D :: rest) = 0x5D :: rest := by
    rw [skipBlanks_append inside]
    exact skipBlanks_of_visible 0x5D rest rfl
  rw [run]
  split
  · next same =>
    cases same
    split
    · next found =>
      rw [closed] at found
      cases found
      rfl
    · next opened => exact absurd closed (opened rest)
  · next same => cases same
  · next noList _ => exact absurd rfl (noList _)

theorem run_openList (frames : List Frame) {input : List UInt8}
    (item : ∀ behind, skipBlanks input ≠ 0x5D :: behind) :
    run .value frames (0x5B :: input) = run .value (.list [] :: frames) input := by
  rw [run]
  split
  · next same =>
    cases same
    split
    · next behind closed => exact absurd closed (item behind)
    · rfl
  · next same => cases same
  · next noList _ => exact absurd rfl (noList input)

theorem run_emptyObject {blanks : List UInt8} (inside : Blanks blanks) (frames : List Frame)
    (rest : List UInt8) :
    run .value frames (0x7B :: (blanks ++ 0x7D :: rest)) =
      run (.deliver (.object [])) frames rest := by
  have closed : skipBlanks (blanks ++ 0x7D :: rest) = 0x7D :: rest := by
    rw [skipBlanks_append inside]
    exact skipBlanks_of_visible 0x7D rest rfl
  rw [run]
  split
  · next same => cases same
  · next same =>
    cases same
    split
    · next found =>
      rw [closed] at found
      cases found
      rfl
    · next opened => exact absurd closed (opened rest)
  · next noObject => exact absurd rfl (noObject _)

theorem run_openObject (frames : List Frame) {key : List Piece} {input rest : List UInt8}
    (member : readKey input = some (key, rest)) :
    run .value frames (0x7B :: input) = run .value (.object [] key :: frames) rest := by
  rw [run]
  split
  · next same => cases same
  · next same =>
    cases same
    split
    · next closed =>
      rw [readKey, closed] at member
      cases member
    · split
      · next second =>
        rw [member] at second
        cases second
        rfl
      · next impossible =>
        rw [member] at impossible
        cases impossible
  · next noObject => exact absurd rfl (noObject _)

theorem run_nextItem (value : Value) (done : List Value) (outer : List Frame) (rest : List UInt8) :
    run (.deliver value) (.list done :: outer) (0x2C :: rest) =
      run .value (.list (value :: done) :: outer) rest := by
  conv => lhs; rw [run]
  split
  · next same =>
    cases same
    rfl
  · next same => cases same
  · next noComma _ => exact absurd rfl (noComma rest)

theorem run_closeList (value : Value) (done : List Value) (outer : List Frame)
    (rest : List UInt8) :
    run (.deliver value) (.list done :: outer) (0x5D :: rest) =
      run (.deliver (.list (value :: done).reverse)) outer rest := by
  rw [run]
  split
  · next same => cases same
  · next same =>
    cases same
    rfl
  · next noClose => exact absurd rfl (noClose rest)

theorem run_nextMember (value : Value) (done : List (List Piece × Value)) (key : List Piece)
    (outer : List Frame) {next : List Piece} {input rest : List UInt8}
    (member : readKey input = some (next, rest)) :
    run (.deliver value) (.object done key :: outer) (0x2C :: input) =
      run .value (.object ((key, value) :: done) next :: outer) rest := by
  conv => lhs; rw [run]
  split
  · next same =>
    cases same
    split
    · next second =>
      rw [member] at second
      cases second
      rfl
    · next impossible =>
      rw [member] at impossible
      cases impossible
  · next same => cases same
  · next noComma _ => exact absurd rfl (noComma _)

theorem run_closeObject (value : Value) (done : List (List Piece × Value)) (key : List Piece)
    (outer : List Frame) (rest : List UInt8) :
    run (.deliver value) (.object done key :: outer) (0x7D :: rest) =
      run (.deliver (.object ((key, value) :: done).reverse)) outer rest := by
  rw [run]
  split
  · next same => cases same
  · next same =>
    cases same
    rfl
  · next noClose => exact absurd rfl (noClose rest)

/-! ## What the machine does with a phrase -/

theorem number_head {sign : List UInt8} (signed : sign = [] ∨ sign = [0x2D]) (n : Nat)
    (rest : List UInt8) : ∃ byte tail, sign ++ (Text.decimal n ++ rest) = byte :: tail ∧
      (Text.isDigit byte = true ∨ byte = 0x2D) := by
  rcases signed with same | same <;> subst same
  · rcases decimal_head n with ⟨byte, tail, front, digit, _⟩
    exact ⟨byte, tail ++ rest, by rw [front]; rfl, .inl digit⟩
  · exact ⟨0x2D, _, rfl, .inr rfl⟩

theorem number_start {byte : UInt8} (start : Text.isDigit byte = true ∨ byte = 0x2D) :
    isBlank byte = false ∧ byte ≠ 0x5B ∧ byte ≠ 0x5D ∧ byte ≠ 0x7B ∧ byte ≠ 0x22 ∧ byte ≠ 0x6E ∧
      byte ≠ 0x74 ∧ byte ≠ 0x66 := by
  have different : ∀ other, Text.isDigit other = false -> other ≠ 0x2D -> byte ≠ other := by
    intro other noDigit noSign same
    subst same
    rcases start with digit | sign
    · rw [noDigit] at digit
      cases digit
    · exact noSign sign
  have visible : isBlank byte = false := by
    simp [isBlank, different 0x20 rfl (by decide), different 0x09 rfl (by decide),
      different 0x0A rfl (by decide), different 0x0D rfl (by decide)]
  exact ⟨visible, different _ rfl (by decide), different _ rfl (by decide),
    different _ rfl (by decide), different _ rfl (by decide), different _ rfl (by decide),
    different _ rfl (by decide), different _ rfl (by decide)⟩

theorem run_number {sign fraction exponent : List UInt8} (signed : sign = [] ∨ sign = [0x2D])
    (n : Nat) (broken : Fraction fraction) (scaled : Exponent exponent) (frames : List Frame)
    {rest : List UInt8} (ends : Ends rest) :
    run .value frames (sign ++ (Text.decimal n ++ (fraction ++ (exponent ++ rest)))) =
      run (.deliver (if sign = [] ∧ fraction = [] ∧ exponent = [] then .natural n
        else .otherNumber)) frames rest := by
  have number := readNumber_number signed n broken scaled ends
  rcases number_head signed n (fraction ++ (exponent ++ rest)) with ⟨byte, tail, front, start⟩
  rcases number_start start with
    ⟨visible, noList, _, noObject, noQuote, noNull, noTrue, noFalse⟩
  rw [front] at number ⊢
  apply run_scalar byte _ visible noList noObject
  rw [readScalar, number]
  all_goals
    intro input same
    have first := (List.cons.inj same).1
    contradiction

theorem run_text {pieces : List Piece} {octets : List UInt8} (quoted : Quoted pieces octets)
    (frames : List Frame) (rest : List UInt8) :
    run .value frames (octets ++ rest) = run (.deliver (.text pieces)) frames rest := by
  have read := readText_quoted quoted rest
  rcases quoted.head with ⟨tail, start⟩
  rw [start, List.cons_append] at read ⊢
  apply run_scalar 0x22 _ (by decide) (by decide) (by decide)
  change (readText (0x22 :: (tail ++ rest))).map _ = _
  rw [read, Option.map_some]

/-- A value starts with an octet that no blank and no closing bracket is. -/
theorem Spells.value_head {value : Value} {octets : List UInt8}
    (spelled : Spells (.value value) octets) : ∃ byte tail, octets = byte :: tail ∧
      isBlank byte = false ∧ byte ≠ 0x5D := by
  have ofNumber : ∀ sign n rest, sign = [] ∨ sign = [0x2D] -> ∃ byte tail,
      sign ++ (Text.decimal n ++ rest) = byte :: tail ∧ isBlank byte = false ∧ byte ≠ 0x5D := by
    intro sign n rest signed
    rcases number_head signed n rest with ⟨byte, tail, front, start⟩
    rcases number_start start with ⟨visible, _, noClose, _⟩
    exact ⟨byte, tail, front, visible, noClose⟩
  cases spelled with
  | null => exact ⟨_, _, rfl, by decide, by decide⟩
  | yes => exact ⟨_, _, rfl, by decide, by decide⟩
  | no => exact ⟨_, _, rfl, by decide, by decide⟩
  | natural n =>
    have start := ofNumber [] n [] (.inl rfl)
    rwa [List.append_nil] at start
  | number signed n broken scaled other => exact ofNumber _ n _ signed
  | text quoted =>
    rcases quoted.head with ⟨tail, start⟩
    exact ⟨_, tail, start, by decide, by decide⟩
  | emptyList blanks => exact ⟨_, _, rfl, by decide, by decide⟩
  | list inside => exact ⟨_, _, rfl, by decide, by decide⟩
  | emptyObject blanks => exact ⟨_, _, rfl, by decide, by decide⟩
  | object inside => exact ⟨_, _, rfl, by decide, by decide⟩

theorem Spells.element_open {value : Value} {octets : List UInt8}
    (spelled : Spells (.element value) octets) (rest behind : List UInt8) :
    skipBlanks (octets ++ rest) ≠ 0x5D :: behind := by
  cases spelled with
  | element front inside back =>
    rcases inside.value_head with ⟨byte, tail, start, visible, noClose⟩
    rw [start, List.append_assoc, skipBlanks_append front, List.cons_append, List.cons_append,
      skipBlanks_of_visible byte _ visible]
    intro same
    exact noClose (List.cons.inj same).1

/-- A list with items does not close where it opens. -/
theorem Spells.items_open {items : List Value} {octets : List UInt8}
    (spelled : Spells (.items items) octets) (rest behind : List UInt8) :
    skipBlanks (octets ++ rest) ≠ 0x5D :: behind := by
  cases spelled with
  | lastItem last => exact last.element_open rest behind
  | nextItem first later =>
    rw [List.append_assoc]
    exact first.element_open _ behind

/-- The machine takes the octets of the phrase and nothing else, and what it
has then is the phrase. -/
def Reads : Phrase -> List UInt8 -> Prop
  | .value value, octets => ∀ frames rest, Ends rest ->
    run .value frames (octets ++ rest) = run (.deliver value) frames rest
  | .element value, octets => ∀ frame outer rest, Ends rest ->
    run .value (frame :: outer) (octets ++ rest) = run (.deliver value) (frame :: outer) rest
  | .items items, octets => ∀ done outer rest,
    run .value (.list done :: outer) (octets ++ 0x5D :: rest) =
      run (.deliver (.list (done.reverse ++ items))) outer rest
  | .member key value, octets => ∀ rest, Ends rest ->
    ∃ input, readKey (octets ++ rest) = some (key, input) ∧ ∀ done outer,
      run .value (.object done key :: outer) input =
        run (.deliver value) (.object done key :: outer) rest
  | .members members, octets => ∀ rest,
    ∃ key input, readKey (octets ++ 0x7D :: rest) = some (key, input) ∧ ∀ done outer,
      run .value (.object done key :: outer) input =
        run (.deliver (.object (done.reverse ++ members))) outer rest

/-- The machine reads every phrase. -/
theorem reads_of_spells {phrase : Phrase} {octets : List UInt8} (spelled : Spells phrase octets) :
    Reads phrase octets := by
  -- By induction on the derivation.  The key of a member is read before a frame is there for it,
  -- so that what is said about members starts with `readKey`.
  induction spelled with
  | null =>
    intro frames rest _
    exact run_scalar 0x6E _ (by decide) (by decide) (by decide) rfl
  | yes =>
    intro frames rest _
    exact run_scalar 0x74 _ (by decide) (by decide) (by decide) rfl
  | no =>
    intro frames rest _
    exact run_scalar 0x66 _ (by decide) (by decide) (by decide) rfl
  | natural n =>
    intro frames rest ends
    exact run_number (.inl rfl) n .none .none frames ends
  | number signed n broken scaled other =>
    intro frames rest ends
    have read := run_number signed n broken scaled frames ends
    rw [if_neg other] at read
    simpa only [List.append_assoc] using read
  | text quoted =>
    intro frames rest _
    exact run_text quoted frames rest
  | emptyList blanks =>
    intro frames rest _
    rw [List.cons_append, List.append_assoc, List.singleton_append]
    exact run_emptyList blanks frames rest
  | list inside ih =>
    intro frames rest _
    rw [List.cons_append, List.append_assoc, List.singleton_append,
      run_openList frames (inside.items_open _)]
    exact ih [] frames rest
  | emptyObject blanks =>
    intro frames rest _
    rw [List.cons_append, List.append_assoc, List.singleton_append]
    exact run_emptyObject blanks frames rest
  | object inside ih =>
    intro frames rest _
    rcases ih rest with ⟨key, input, read, continues⟩
    rw [List.cons_append, List.append_assoc, List.singleton_append, run_openObject frames read]
    exact continues [] frames
  | element front inside back ih =>
    intro frame outer rest ends
    rw [List.append_assoc, run_blanks front, List.append_assoc, ih _ _ (ends.after_blanks back),
      deliver_blanks back]
  | lastItem last ih =>
    intro done outer rest
    rw [ih _ _ _ (ends_cons rest (.inr (.inr (.inl rfl)))), run_closeList, List.reverse_cons]
  | nextItem first later ihFirst ihLater =>
    intro done outer rest
    rw [List.append_assoc, List.cons_append, ihFirst _ _ _ (ends_cons _ (.inr (.inl rfl))),
      run_nextItem, ihLater, List.reverse_cons, List.append_assoc, List.singleton_append]
  | member front quoted back inside ih =>
    intro rest ends
    refine ⟨_, ?_, fun done outer => ih _ outer rest ends⟩
    have read := readKey_quoted front quoted back
    simpa only [List.append_assoc, List.cons_append] using read _
  | lastMember last ih =>
    intro rest
    rcases ih (0x7D :: rest) (ends_cons rest (.inr (.inr (.inr rfl)))) with ⟨input, read, continues⟩
    refine ⟨_, input, read, ?_⟩
    intro done outer
    rw [continues, run_closeObject, List.reverse_cons]
  | @nextMember name value members octets others first later ihFirst ihLater =>
    intro rest
    rcases ihLater rest with ⟨key, input, read, continues⟩
    rcases ihFirst (0x2C :: (others ++ 0x7D :: rest)) (ends_cons _ (.inr (.inl rfl))) with
      ⟨firstInput, firstRead, firstContinues⟩
    refine ⟨name, firstInput, ?_, ?_⟩
    · rw [List.append_assoc]
      exact firstRead
    · intro done outer
      rw [firstContinues, run_nextMember _ _ _ _ read, continues, List.reverse_cons,
        List.append_assoc, List.singleton_append]

/-- A document has the value that it is written from. -/
theorem parse?_of_spells {value : Value} {document : List UInt8}
    (spelled : Spells (.element value) document) : parse? document = some value := by
  cases spelled with
  | @element _ before octets behind front inside back =>
    have blank : Ends behind := by
      have ends := ends_nil.after_blanks back
      rwa [List.append_nil] at ends
    have skipped : skipBlanks behind = [] := by
      have rest := skipBlanks_append back []
      rwa [List.append_nil] at rest
    rw [parse?, run_blanks front, reads_of_spells inside [] behind blank, run]
    exact if_pos skipped

end Json
end FlashSlots
