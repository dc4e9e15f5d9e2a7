namespace FlashSlots
namespace Toml

/-!
# Strings of a TOML document

There are four ways to write a string: between quotes or apostrophes, and on
one line or between three of them on several.  Only between quotes a backslash
has a meaning.  A line end in a string is one line feed, and one that follows
the three opening marks is left out.

A reader gives what it has read and what is left.
-/

/-- A space or a tabulator. -/
def isBlank (char : Char) : Bool := char == ' ' || char == '\t'

def skipBlanks (input : List Char) : List Char := input.dropWhile isBlank

/-- A character that is neither a line end nor another control character. -/
def isPlain (char : Char) : Bool := (' ' ≤ char && char ≠ '\x7f') || char == '\t'

/-- What is left behind a line end. -/
def skipNewline : List Char -> Option (List Char)
  | '\n' :: rest => some rest
  | '\r' :: '\n' :: rest => some rest
  | _ => none

/-- What is left behind blanks and line ends. -/
def skipSpace : List Char -> List Char
  | '\r' :: '\n' :: rest => skipSpace rest
  | char :: rest => if isBlank char || char == '\n' then skipSpace rest else char :: rest
  | [] => []

/-! ## Escapes -/

/-- The value of a hexadecimal digit. -/
def hexDigit? (char : Char) : Option Nat :=
  if char.isDigit then some (char.toNat - 0x30)
  else if 'a' ≤ char && char ≤ 'f' then some (char.toNat - 0x57)
  else if 'A' ≤ char && char ≤ 'F' then some (char.toNat - 0x37)
  else none

/-- The character with the number that hexadecimal digits write.  Halves of a
pair and numbers that are too large have none. -/
def hexChar? (digits : List Char) : Option Char :=
  match digits.foldlM (fun value char => (hexDigit? char).map (value * 16 + ·)) 0 with
  | some code => if code.isValidChar then some (Char.ofNat code) else none
  | none => none

/-- The character that a number with this many digits names. -/
def readCode (count : Nat) (input : List Char) : Option (Char × List Char) :=
  if (input.take count).length = count then
    (hexChar? (input.take count)).map (·, input.drop count)
  else none

/-- What a backslash stands for, given what follows it. -/
def readEscape : List Char -> Option (Char × List Char)
  | 'b' :: rest => some ('\x08', rest)
  | 't' :: rest => some ('\t', rest)
  | 'n' :: rest => some ('\n', rest)
  | 'f' :: rest => some ('\x0c', rest)
  | 'r' :: rest => some ('\r', rest)
  | '"' :: rest => some ('"', rest)
  | '\\' :: rest => some ('\\', rest)
  | 'u' :: rest => readCode 4 rest
  | 'U' :: rest => readCode 8 rest
  | _ => none

/-- What is left behind a backslash that ends its line. -/
def skipContinuation (input : List Char) : Option (List Char) :=
  (skipNewline (skipBlanks input)).map skipSpace

theorem skipNewline_shorter {input rest : List Char} (read : skipNewline input = some rest) :
    rest.length < input.length := by
  unfold skipNewline at read
  split at read
  · cases read
    exact Nat.lt_succ_self _
  · cases read
    simp only [List.length_cons]
    omega
  · cases read

theorem skipSpace_le (input : List Char) : (skipSpace input).length ≤ input.length := by
  fun_induction skipSpace input with
  | case1 rest ih =>
    simp only [List.length_cons]
    omega
  | case2 char rest alone blank ih => exact Nat.le_succ_of_le ih
  | case3 char rest alone visible => exact Nat.le_refl _
  | case4 => exact Nat.le_refl _

theorem readCode_le {count : Nat} {input rest : List Char} {char : Char}
    (read : readCode count input = some (char, rest)) : rest.length ≤ input.length := by
  unfold readCode at read
  split at read
  · rcases Option.map_eq_some_iff.mp read with ⟨_, _, same⟩
    cases same
    simp
  · cases read

theorem readEscape_shorter {input rest : List Char} {char : Char}
    (read : readEscape input = some (char, rest)) : rest.length < input.length := by
  unfold readEscape at read
  split at read
  case h_8 | h_9 => exact Nat.lt_succ_of_le (readCode_le read)
  case h_10 => cases read
  all_goals
    cases read
    exact Nat.lt_succ_self _

theorem skipContinuation_shorter {input rest : List Char}
    (read : skipContinuation input = some rest) : rest.length < input.length := by
  rcases Option.map_eq_some_iff.mp read with ⟨behind, newline, same⟩
  have first := (List.dropWhile_suffix isBlank (l := input)).length_le
  have second := skipNewline_shorter newline
  have third := skipSpace_le behind
  unfold skipBlanks at second
  rw [← same]
  omega

/-! ## The four kinds -/

/-- The text that has been read, last character first. -/
def collected (done : List Char) : String := String.ofList done.reverse

/-- The rest of a string on one line, between quotes. -/
def readQuoted (done input : List Char) : Option (String × List Char) :=
  match input with
  | '"' :: rest => some (collected done, rest)
  | '\\' :: rest =>
    match _escape : readEscape rest with
    | some (char, behind) => readQuoted (char :: done) behind
    | none => none
  | char :: rest => if isPlain char then readQuoted (char :: done) rest else none
  | [] => none
  termination_by input.length
  decreasing_by
    · have := readEscape_shorter _escape
      simp only [List.length_cons]
      omega
    · simp

/-- The end of a string on several lines, behind three closing marks.  Up to
two more marks belong to the text in front of them. -/
def closing (mark : Char) (done : List Char) : List Char -> String × List Char
  | first :: second :: rest =>
    if first = mark then
      if second = mark then (collected (mark :: mark :: done), rest)
      else (collected (mark :: done), second :: rest)
    else (collected done, first :: second :: rest)
  | [last] => if last = mark then (collected (mark :: done), []) else (collected done, [last])
  | [] => (collected done, [])

/-- The rest of a string on several lines, between quotes. -/
def readQuotedLines (done input : List Char) : Option (String × List Char) :=
  match input with
  | '"' :: '"' :: '"' :: rest => some (closing '"' done rest)
  | '\\' :: rest =>
    match _line : skipContinuation rest with
    | some behind => readQuotedLines done behind
    | none =>
      match _escape : readEscape rest with
      | some (char, behind) => readQuotedLines (char :: done) behind
      | none => none
  | '\r' :: '\n' :: rest => readQuotedLines ('\n' :: done) rest
  | char :: rest =>
    if isPlain char || char == '\n' then readQuotedLines (char :: done) rest else none
  | [] => none
  termination_by input.length
  decreasing_by
    · have := skipContinuation_shorter _line
      simp only [List.length_cons]
      omega
    · have := readEscape_shorter _escape
      simp only [List.length_cons]
      omega
    · simp only [List.length_cons]
      omega
    · simp

/-- The rest of a string on one line, between apostrophes. -/
def readLiteral (done : List Char) : List Char -> Option (String × List Char)
  | '\x27' :: rest => some (collected done, rest)
  | char :: rest => if isPlain char then readLiteral (char :: done) rest else none
  | [] => none

/-- The rest of a string on several lines, between apostrophes. -/
def readLiteralLines (done : List Char) : List Char -> Option (String × List Char)
  | '\x27' :: '\x27' :: '\x27' :: rest => some (closing '\x27' done rest)
  | '\r' :: '\n' :: rest => readLiteralLines ('\n' :: done) rest
  | char :: rest =>
    if isPlain char || char == '\n' then readLiteralLines (char :: done) rest else none
  | [] => none

/-- A line end behind three opening marks is left out. -/
def skipFirstNewline (input : List Char) : List Char := (skipNewline input).getD input

/-- A string, from its opening marks on. -/
def readText : List Char -> Option (String × List Char)
  | '"' :: '"' :: '"' :: rest => readQuotedLines [] (skipFirstNewline rest)
  | '"' :: rest => readQuoted [] rest
  | '\x27' :: '\x27' :: '\x27' :: rest => readLiteralLines [] (skipFirstNewline rest)
  | '\x27' :: rest => readLiteral [] rest
  | _ => none

end Toml
end FlashSlots
