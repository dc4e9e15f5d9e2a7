namespace FlashSlots
namespace Toml

/-!
# Numbers of a TOML document

Digits may be grouped with single underscores.  A whole number in base ten may
have a sign and has no leading zero; in the bases sixteen, eight and two it has
neither sign nor limit to its zeros.  Whole numbers have 64 bits with the sign.

A real number has a fraction, an exponent or both, or it is one of the words
`inf` and `nan`.  One that is too large for a double is refused, unless it is
negative.
-/

/-- The value of a digit in any base up to sixteen. -/
def digitValue (char : Char) : Nat :=
  if char.isDigit then char.toNat - 0x30
  else if char.isLower then char.toNat - 0x57
  else char.toNat - 0x37

/-- The number that digits write. -/
def valueOf (base : Nat) (digits : List Char) : Nat :=
  digits.foldl (fun value char => value * base + digitValue char) 0

/-- Digits and what is left behind them.  A single underscore may stand
between two digits. -/
def moreDigits (isDigit : Char -> Bool) : List Char -> List Char × List Char
  | '_' :: char :: rest =>
    if isDigit char then
      let (digits, behind) := moreDigits isDigit rest
      (char :: digits, behind)
    else ([], '_' :: char :: rest)
  | char :: rest =>
    if isDigit char then
      let (digits, behind) := moreDigits isDigit rest
      (char :: digits, behind)
    else ([], char :: rest)
  | [] => ([], [])

/-- At least one digit. -/
def readDigits (isDigit : Char -> Bool) : List Char -> Option (List Char × List Char)
  | char :: rest =>
    if isDigit char then
      let (digits, behind) := moreDigits isDigit rest
      some (char :: digits, behind)
    else none
  | [] => none

/-- A sign and what is left behind it.  No sign is a plus. -/
def readSign : List Char -> Bool × List Char
  | '-' :: rest => (true, rest)
  | '+' :: rest => (false, rest)
  | input => (false, input)

/-- The digits of a whole number in base ten.  A zero stands alone. -/
def readWhole : List Char -> Option (List Char × List Char)
  | '0' :: rest => some (['0'], rest)
  | input => readDigits Char.isDigit input

/-! ## Whole numbers -/

def isHexDigit (char : Char) : Bool :=
  char.isDigit || ('a' ≤ char && char ≤ 'f') || ('A' ≤ char && char ≤ 'F')

def isOctalDigit (char : Char) : Bool := '0' ≤ char && char ≤ '7'

def isBinaryDigit (char : Char) : Bool := char == '0' || char == '1'

/-- Whole numbers are less than this, and not less than its negative. -/
def integerLimit : Nat := 0x8000000000000000

/-- A number in some base, without its mark.  It has 63 bits. -/
def readBased (base : Nat) (isDigit : Char -> Bool) (input : List Char) :
    Option (Int × List Char) :=
  match readDigits isDigit input with
  | some (digits, rest) =>
    if valueOf base digits < integerLimit then some (valueOf base digits, rest) else none
  | none => none

/-- A whole number. -/
def readInteger : List Char -> Option (Int × List Char)
  | '0' :: 'x' :: rest => readBased 16 isHexDigit rest
  | '0' :: 'o' :: rest => readBased 8 isOctalDigit rest
  | '0' :: 'b' :: rest => readBased 2 isBinaryDigit rest
  | input =>
    let (negative, unsigned) := readSign input
    match readWhole unsigned with
    | some (digits, rest) =>
      let size := valueOf 10 digits
      if negative then if size ≤ integerLimit then some (-(size : Int), rest) else none
      else if size < integerLimit then some (size, rest)
      else none
    | none => none

/-! ## Real numbers -/

/-- The smallest number that rounds to infinity. -/
def infiniteFrom : Nat := Nat.pow 2 1024 - Nat.pow 2 970

/-- The digits of a decimal, taken as one number and moved by some powers of
ten, round to infinity.  The count of digits decides all but the close
cases. -/
def roundsToInfinity (digits : List Char) (exponent : Int) : Bool :=
  let leading := digits.dropWhile (· == '0')
  let size : Int := leading.length + exponent
  if leading.isEmpty || decide (size < 300) then false
  else if 320 < size then true
  else if 0 ≤ exponent then decide (infiniteFrom ≤ valueOf 10 leading * Nat.pow 10 exponent.toNat)
  else decide (infiniteFrom * Nat.pow 10 (-exponent).toNat ≤ valueOf 10 leading)

def readExponent : List Char -> Option (Int × List Char)
  | mark :: rest =>
    if mark = 'e' || mark = 'E' then
      let (negative, unsigned) := readSign rest
      match readDigits Char.isDigit unsigned with
      | some (digits, behind) =>
        some (if negative then -(valueOf 10 digits : Int) else valueOf 10 digits, behind)
      | none => none
    else none
  | [] => none

/-- A fraction and an exponent, of which one may be missing. -/
def readFraction (input : List Char) : Option ((List Char × Int) × List Char) :=
  match input with
  | '.' :: rest =>
    match readDigits Char.isDigit rest with
    | some (digits, behind) =>
      match readExponent behind with
      | some (exponent, behind) => some ((digits, exponent), behind)
      | none => some ((digits, 0), behind)
    | none => none
  | _ => (readExponent input).map fun (exponent, behind) => (([], exponent), behind)

/-- What is left behind a real number. -/
def skipReal (input : List Char) : Option (List Char) :=
  let (negative, unsigned) := readSign input
  match unsigned with
  | 'i' :: 'n' :: 'f' :: rest => some rest
  | 'n' :: 'a' :: 'n' :: rest => some rest
  | _ =>
    match readWhole unsigned with
    | some (whole, behind) =>
      match readFraction behind with
      | some ((fraction, exponent), rest) =>
        if !negative && roundsToInfinity (whole ++ fraction) (exponent - fraction.length) then none
        else some rest
      | none => none
    | none => none

end Toml
end FlashSlots
