import FlashSlots.Json.Value

namespace FlashSlots
namespace Json

/-!
# Reading JSON

The reader works through the document from the front.  Lists and objects that
are still open are kept as frames, innermost first, so that their depth costs
memory and nothing else.  A task says what happens next: a value is due, or a
value is complete and goes to the innermost frame.

Every step takes at least one octet, which is why reading ends.
-/

/-- Space, tabulator, line feed and carriage return. -/
def isBlank (byte : UInt8) : Bool :=
  byte == 0x20 || byte == 0x09 || byte == 0x0A || byte == 0x0D

def skipBlanks (input : List UInt8) : List UInt8 := input.dropWhile isBlank

theorem length_skipBlanks (input : List UInt8) : (skipBlanks input).length ≤ input.length :=
  (List.dropWhile_suffix isBlank).length_le

/-- The value of a hexadecimal digit. -/
def hexDigit? (byte : UInt8) : Option Nat :=
  if 0x30 ≤ byte && byte ≤ 0x39 then some (byte.toNat - 0x30)
  else if 0x61 ≤ byte && byte ≤ 0x66 then some (byte.toNat - 0x57)
  else if 0x41 ≤ byte && byte ≤ 0x46 then some (byte.toNat - 0x37)
  else none

/-- The code unit that four digits name. -/
def unit? (a b c d : UInt8) : Option Nat := do
  let a <- hexDigit? a
  let b <- hexDigit? b
  let c <- hexDigit? c
  let d <- hexDigit? d
  return a * 0x1000 + b * 0x100 + c * 0x10 + d

/-- The octet behind a short escape. -/
def shortEscape? (byte : UInt8) : Option UInt8 :=
  if byte = 0x22 || byte = 0x5C || byte = 0x2F then some byte
  else if byte = 0x62 then some 0x08
  else if byte = 0x66 then some 0x0C
  else if byte = 0x6E then some 0x0A
  else if byte = 0x72 then some 0x0D
  else if byte = 0x74 then some 0x09
  else none

/-- The rest of a string whose pieces so far are `done`, last one first.  The
closing quote is taken as well. -/
def readPieces (done : List Piece) : List UInt8 -> Option (List Piece × List UInt8)
  | [] => none
  | 0x22 :: rest => some (done.reverse, rest)
  | 0x5C :: 0x75 :: a :: b :: c :: d :: rest =>
    match unit? a b c d with
    | some code => readPieces (Piece.ofUnit code :: done) rest
    | none => none
  | 0x5C :: letter :: rest =>
    match shortEscape? letter with
    | some byte => readPieces (.octet byte :: done) rest
    | none => none
  | byte :: rest => if byte < 0x20 || byte = 0x5C then none else readPieces (.octet byte :: done) rest

/-- A string, from its opening quote on. -/
def readText : List UInt8 -> Option (List Piece × List UInt8)
  | 0x22 :: rest => readPieces [] rest
  | _ => none

/-- What is left behind a run of digits that must not be empty. -/
def skipDigits1 : List UInt8 -> Option (List UInt8)
  | byte :: rest => if Text.isDigit byte then some (rest.dropWhile Text.isDigit) else none
  | [] => none

/-- What is left behind an exponent, if one stands here. -/
def skipExponent : List UInt8 -> Option (List UInt8)
  | byte :: rest =>
    if byte = 0x65 || byte = 0x45 then
      match rest with
      | 0x2B :: digits => skipDigits1 digits
      | 0x2D :: digits => skipDigits1 digits
      | digits => skipDigits1 digits
    else some (byte :: rest)
  | [] => some []

/-- What is left behind a fraction and an exponent, if they stand here. -/
def skipFraction : List UInt8 -> Option (List UInt8)
  | 0x2E :: digits => do
    let rest <- skipDigits1 digits
    skipExponent rest
  | rest => skipExponent rest

/-- The digits before any point.  A zero stands alone. -/
def readWhole : List UInt8 -> Option (List UInt8 × List UInt8)
  | 0x30 :: rest =>
    match rest with
    | next :: _ => if Text.isDigit next then none else some ([0x30], rest)
    | [] => some ([0x30], rest)
  | byte :: rest =>
    if Text.isDigit byte then some (byte :: rest.takeWhile Text.isDigit, rest.dropWhile Text.isDigit)
    else none
  | [] => none

def readNumber : List UInt8 -> Option (Value × List UInt8)
  | 0x2D :: input => do
    let (_, behind) <- readWhole input
    let rest <- skipFraction behind
    return (.otherNumber, rest)
  | input => do
    let (digits, behind) <- readWhole input
    let rest <- skipFraction behind
    return (if rest.length = behind.length then .natural (Text.decimalValue digits)
      else .otherNumber, rest)

/-- What is left behind a fixed word. -/
def skipWord : List UInt8 -> List UInt8 -> Option (List UInt8)
  | [], input => some input
  | byte :: word, next :: input => if byte = next then skipWord word input else none
  | _ :: _, [] => none

/-- A value that holds no other value. -/
def readScalar : List UInt8 -> Option (Value × List UInt8)
  | 0x22 :: rest => (readPieces [] rest).map fun (pieces, rest) => (.text pieces, rest)
  | 0x6E :: rest => (skipWord (ascii "ull") rest).map (.null, ·)
  | 0x74 :: rest => (skipWord (ascii "rue") rest).map (.bool true, ·)
  | 0x66 :: rest => (skipWord (ascii "alse") rest).map (.bool false, ·)
  | input => readNumber input

/-- A key with the colon behind it. -/
def readKey (input : List UInt8) : Option (List Piece × List UInt8) :=
  match readText (skipBlanks input) with
  | some (key, rest) =>
    match skipBlanks rest with
    | 0x3A :: rest => some (key, rest)
    | _ => none
  | none => none

/-! ## Every part takes an octet -/

theorem readPieces_shorter {done pieces : List Piece} {input rest : List UInt8}
    (read : readPieces done input = some (pieces, rest)) : rest.length < input.length := by
  fun_induction readPieces done input with
  | case1 | case4 | case6 | case7 => cases read
  | case2 done behind =>
    cases read
    exact Nat.lt_succ_self _
  | case3 done a b c d behind code named ih =>
    have shorter := ih read
    simp only [List.length_cons]
    omega
  | case5 done letter behind plain byte named ih =>
    have shorter := ih read
    simp only [List.length_cons]
    omega
  | case8 done byte behind noQuote noUnit noEscape allowed ih =>
    have shorter := ih read
    simp only [List.length_cons]
    omega

theorem readText_shorter {pieces : List Piece} {input rest : List UInt8}
    (read : readText input = some (pieces, rest)) : rest.length < input.length := by
  unfold readText at read
  split at read
  · have := readPieces_shorter read
    simp only [List.length_cons]
    omega
  · cases read

theorem length_dropWhile_le (p : UInt8 -> Bool) (input : List UInt8) :
    (input.dropWhile p).length ≤ input.length :=
  (List.dropWhile_suffix p).length_le

theorem skipDigits1_shorter {input rest : List UInt8}
    (read : skipDigits1 input = some rest) : rest.length < input.length := by
  unfold skipDigits1 at read
  split at read
  · next byte tail =>
    split at read
    · cases read
      have := length_dropWhile_le Text.isDigit tail
      simp only [List.length_cons]
      omega
    · cases read
  · cases read

theorem skipExponent_le {input rest : List UInt8}
    (read : skipExponent input = some rest) : rest.length ≤ input.length := by
  unfold skipExponent at read
  split at read
  · split at read
    · split at read
      · have := skipDigits1_shorter read
        simp only [List.length_cons]
        omega
      · have := skipDigits1_shorter read
        simp only [List.length_cons]
        omega
      · have := skipDigits1_shorter read
        simp only [List.length_cons]
        omega
    · cases read
      exact Nat.le_refl _
  · cases read
    exact Nat.le_refl _

theorem skipFraction_le {input rest : List UInt8}
    (read : skipFraction input = some rest) : rest.length ≤ input.length := by
  unfold skipFraction at read
  split at read
  · next digits =>
    cases first : skipDigits1 digits with
    | none => simp [first] at read
    | some behind =>
      rw [first] at read
      have := skipDigits1_shorter first
      have := skipExponent_le read
      simp only [List.length_cons]
      omega
  · exact skipExponent_le read

theorem readWhole_shorter {input digits rest : List UInt8}
    (read : readWhole input = some (digits, rest)) : rest.length < input.length := by
  unfold readWhole at read
  split at read
  · next tail =>
    split at read
    · split at read
      · cases read
      · cases read
        exact Nat.lt_succ_self _
    · cases read
      exact Nat.lt_succ_self _
  · next byte tail _ =>
    split at read
    · cases read
      have := length_dropWhile_le Text.isDigit tail
      simp only [List.length_cons]
      omega
    · cases read
  · cases read

theorem readNumber_shorter {input rest : List UInt8} {value : Value}
    (read : readNumber input = some (value, rest)) : rest.length < input.length := by
  unfold readNumber at read
  split at read
  · next tail =>
    cases whole : readWhole tail with
    | none => simp [whole] at read
    | some pair =>
      rcases pair with ⟨digits, middle⟩
      cases fraction : skipFraction middle with
      | none => simp [whole, fraction] at read
      | some behind =>
        simp only [whole, fraction, Option.bind_eq_bind, Option.bind_some, Option.pure_def,
          Option.some.injEq, Prod.mk.injEq] at read
        have := readWhole_shorter whole
        have := skipFraction_le fraction
        rw [← read.2]
        simp only [List.length_cons]
        omega
  · cases whole : readWhole input with
    | none => simp [whole] at read
    | some pair =>
      rcases pair with ⟨digits, middle⟩
      cases fraction : skipFraction middle with
      | none => simp [whole, fraction] at read
      | some behind =>
        simp only [whole, fraction, Option.bind_eq_bind, Option.bind_some, Option.pure_def,
          Option.some.injEq, Prod.mk.injEq] at read
        have := readWhole_shorter whole
        have := skipFraction_le fraction
        rw [← read.2]
        omega

theorem skipWord_le {word input rest : List UInt8}
    (read : skipWord word input = some rest) : rest.length ≤ input.length := by
  induction word generalizing input with
  | nil =>
    cases read
    exact Nat.le_refl _
  | cons byte word ih =>
    cases input with
    | nil => cases read
    | cons next input =>
      rw [skipWord] at read
      split at read
      · have := ih read
        simp only [List.length_cons]
        omega
      · cases read

theorem readScalar_shorter {input rest : List UInt8} {value : Value}
    (read : readScalar input = some (value, rest)) : rest.length < input.length := by
  unfold readScalar at read
  split at read
  · rcases Option.map_eq_some_iff.mp read with ⟨⟨pieces, behind⟩, inner, same⟩
    have := readPieces_shorter inner
    cases same
    simp only [List.length_cons]
    omega
  · rcases Option.map_eq_some_iff.mp read with ⟨behind, inner, same⟩
    have := skipWord_le inner
    cases same
    simp only [List.length_cons]
    omega
  · rcases Option.map_eq_some_iff.mp read with ⟨behind, inner, same⟩
    have := skipWord_le inner
    cases same
    simp only [List.length_cons]
    omega
  · rcases Option.map_eq_some_iff.mp read with ⟨behind, inner, same⟩
    have := skipWord_le inner
    cases same
    simp only [List.length_cons]
    omega
  · exact readNumber_shorter read

theorem readKey_shorter {input rest : List UInt8} {key : List Piece}
    (read : readKey input = some (key, rest)) : rest.length < input.length := by
  unfold readKey at read
  split at read
  · next pieces behind text =>
    split at read
    · next tail colon =>
      cases read
      have := readText_shorter text
      have := length_skipBlanks input
      have := length_skipBlanks behind
      rw [colon, List.length_cons] at this
      omega
    · cases read
  · cases read

/-! ## The machine -/

/-- A list or an object that is still open. -/
inductive Frame where
  /-- The items so far, last one first. -/
  | list (done : List Value)
  /-- The members so far, last one first, and the key of the next one. -/
  | object (done : List (List Piece × Value)) (key : List Piece)

/-- What the reader does next. -/
inductive Task where
  | value
  | deliver (value : Value)

/-- Carry on with a task. -/
def run (task : Task) (frames : List Frame) (input : List UInt8) :
    Option (Value × List UInt8) :=
  match task with
  | .value =>
    match _start : skipBlanks input with
    | 0x5B :: rest =>
      match _inside : skipBlanks rest with
      | 0x5D :: behind => run (.deliver (.list [])) frames behind
      | _ => run .value (.list [] :: frames) rest
    | 0x7B :: rest =>
      match _inside : skipBlanks rest with
      | 0x7D :: behind => run (.deliver (.object [])) frames behind
      | _ =>
        match _member : readKey rest with
        | some (key, behind) => run .value (.object [] key :: frames) behind
        | none => none
    | _ =>
      match _scalar : readScalar (skipBlanks input) with
      | some (value, rest) => run (.deliver value) frames rest
      | none => none
  | .deliver value =>
    match frames with
    | [] => some (value, input)
    | .list done :: outer =>
      match _start : skipBlanks input with
      | 0x2C :: rest => run .value (.list (value :: done) :: outer) rest
      | 0x5D :: rest => run (.deliver (.list (value :: done).reverse)) outer rest
      | _ => none
    | .object done key :: outer =>
      match _start : skipBlanks input with
      | 0x2C :: rest =>
        match _member : readKey rest with
        | some (next, behind) => run .value (.object ((key, value) :: done) next :: outer) behind
        | none => none
      | 0x7D :: rest => run (.deliver (.object ((key, value) :: done).reverse)) outer rest
      | _ => none
  termination_by input.length
  decreasing_by
    all_goals
      have blanks := length_skipBlanks input
      try rw [_start, List.length_cons] at blanks
    · have more := length_skipBlanks rest
      rw [_inside, List.length_cons] at more
      omega
    · omega
    · have more := length_skipBlanks rest
      rw [_inside, List.length_cons] at more
      omega
    · have := readKey_shorter _member
      omega
    · have := readScalar_shorter _scalar
      omega
    · omega
    · omega
    · have := readKey_shorter _member
      omega
    · omega

/-- The value of a document.  Blanks may stand around it and nothing else. -/
def parse? (document : List UInt8) : Option Value :=
  match run .value [] document with
  | some (value, rest) => if skipBlanks rest = [] then some value else none
  | none => none

end Json
end FlashSlots
