namespace FlashSlots

/-!
# Durations

A duration counts nanoseconds.  A message shows it in the largest of four
units that it fills, with as many decimals as it takes and no more.
-/

/-- A length of time. -/
structure Duration where
  nanoseconds : Nat
  deriving DecidableEq

namespace Duration

def ofMilliseconds (n : Nat) : Duration := ⟨n * 1000000⟩

def ofSeconds (n : Nat) : Duration := ⟨n * 1000000000⟩

/-- The whole seconds. -/
def seconds (duration : Duration) : Nat := duration.nanoseconds / 1000000000

/-- The decimals of a fraction with `places` digits, without trailing zeros. -/
def decimals (places fraction : Nat) : List Char :=
  let digits := Nat.toDigits 10 fraction
  let padded := List.replicate (places - digits.length) '0' ++ digits
  (padded.reverse.dropWhile (· == '0')).reverse

/-- A number of units, each of `10 ^ places` nanoseconds. -/
def inUnit (nanoseconds places : Nat) (unit : String) : String :=
  let whole := toString (nanoseconds / Nat.pow 10 places)
  match decimals places (nanoseconds % Nat.pow 10 places) with
  | [] => whole ++ unit
  | digits => whole ++ "." ++ String.ofList digits ++ unit

/-- The text of a duration in messages. -/
def describe (duration : Duration) : String :=
  let n := duration.nanoseconds
  if 1000000000 ≤ n then inUnit n 9 "s"
  else if 1000000 ≤ n then inUnit n 6 "ms"
  else if 1000 ≤ n then inUnit n 3 "µs"
  else inUnit n 0 "ns"

end Duration
end FlashSlots
