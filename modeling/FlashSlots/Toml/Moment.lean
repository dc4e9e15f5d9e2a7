namespace FlashSlots
namespace Toml

/-!
# Moments of a TOML document

A moment is a date, a time of day, or both with or without an offset.  All
parts have a fixed number of digits and must exist in the calendar; a minute
may have a leap second.

Only what is left behind a moment is of interest.
-/

/-- A number of exactly this many digits, between two bounds. -/
def readPart (count low high : Nat) (input : List Char) : Option (Nat × List Char) :=
  let digits := input.take count
  let value := digits.foldl (fun value char => value * 10 + (char.toNat - 0x30)) 0
  if digits.length = count && digits.all Char.isDigit && decide (low ≤ value)
      && decide (value ≤ high) then
    some (value, input.drop count)
  else none

/-- What is left behind a fixed character. -/
def skipMark (mark : Char) : List Char -> Option (List Char)
  | char :: rest => if char = mark then some rest else none
  | [] => none

def isLeapYear (year : Nat) : Bool :=
  decide (year % 4 = 0) && (decide (year % 100 ≠ 0) || decide (year % 400 = 0))

def daysIn (year month : Nat) : Nat :=
  if month = 2 then if isLeapYear year then 29 else 28
  else if month = 4 || month = 6 || month = 9 || month = 11 then 30
  else 31

/-- What is left behind a date. -/
def skipDate (input : List Char) : Option (List Char) := do
  let (year, rest) <- readPart 4 0 9999 input
  let rest <- skipMark '-' rest
  let (month, rest) <- readPart 2 1 12 rest
  let rest <- skipMark '-' rest
  let (_, rest) <- readPart 2 1 (daysIn year month) rest
  return rest

/-- What is left behind hours and minutes. -/
def skipHourMinute (input : List Char) : Option (List Char) := do
  let (_, rest) <- readPart 2 0 23 input
  let rest <- skipMark ':' rest
  let (_, rest) <- readPart 2 0 59 rest
  return rest

/-- What is left behind the fraction of a second, if one stands here. -/
def skipSecondFraction : List Char -> List Char
  | '.' :: char :: rest => if char.isDigit then rest.dropWhile Char.isDigit else '.' :: char :: rest
  | input => input

/-- What is left behind a time of day. -/
def skipTime (input : List Char) : Option (List Char) := do
  let rest <- skipHourMinute input
  let rest <- skipMark ':' rest
  let (_, rest) <- readPart 2 0 60 rest
  return skipSecondFraction rest

/-- What is left behind an offset, if one stands here. -/
def skipOffset (input : List Char) : List Char :=
  match input with
  | 'Z' :: rest => rest
  | 'z' :: rest => rest
  | '+' :: rest => (skipHourMinute rest).getD input
  | '-' :: rest => (skipHourMinute rest).getD input
  | _ => input

/-- What is left behind a moment. -/
def skipMoment (input : List Char) : Option (List Char) :=
  match skipDate input with
  | some rest =>
    match rest with
    | mark :: more =>
      if mark = 'T' || mark = 't' || mark = ' ' then
        match skipTime more with
        | some behind => some (skipOffset behind)
        | none => some rest
      else some rest
    | [] => some rest
  | none => skipTime input

end Toml
end FlashSlots
