import FlashSlots.Compression.Bits

namespace FlashSlots
namespace Compression

/-!
# Prefix codes

A prefix code gives each symbol a word of bits such that no word starts with
another one.  The lengths of the words fix the code: shorter words come before
longer ones, and words of one length are numbered in the order of their
symbols.  So the code is stored as the number of words of each length, with
the symbols in the order of their words.

The words of a code cover all bit sequences if and only if the code is full.
-/

structure PrefixCode where
  /-- How many words have the length one, two and so on. -/
  counts : List Nat
  /-- The symbols in the order of their words. -/
  symbols : Array Nat

namespace PrefixCode

/-- Words are at most this long. -/
def maxLength : Nat := 15

/-- The lengths that a word can have. -/
def lengthRange : List Nat := (List.range maxLength).map (· + 1)

/-- The code in which each symbol has a word of the given length.  Length zero
stands for a symbol without a word. -/
def ofLengths (lengths : List Nat) : PrefixCode where
  counts := lengthRange.map fun length => lengths.count length
  symbols := (lengthRange.flatMap fun length =>
    (lengths.zipIdx.filter fun entry => entry.1 == length).map Prod.snd).toArray

/-- The share of all words of the greatest length that words of these counts
cover.  The first count is for words with `rest` bits less than that. -/
def covered : List Nat -> Nat
  | [] => 0
  | count :: longer => count * Nat.pow 2 longer.length + covered longer

/-- The words cover everything. -/
def isFull (code : PrefixCode) : Bool := covered code.counts == Nat.pow 2 maxLength

/-- A code with at most one word need not be full. -/
def isUsable (code : PrefixCode) : Bool := code.isFull || decide (code.symbols.size ≤ 1)

/-- Read a word.  `word` is what has been read of it and `first` the least word
of that length, both one bit too short; `index` counts the shorter words. -/
def decodeFrom (symbols : Array Nat) (input : ByteArray) :
    List Nat -> Nat -> Nat -> Nat -> Nat -> Except Fault (Nat × Nat)
  | [], _, _, _, _ => .error .corrupt
  | count :: longer, position, word, first, index =>
    match bit input position with
    | .error fault => .error fault
    | .ok next =>
      let word := 2 * word + next
      let first := 2 * first
      if word < first + count then
        .ok (symbols.getD (index + (word - first)) 0, position + 1)
      else decodeFrom symbols input longer (position + 1) word (first + count) (index + count)

/-- Read a symbol.  The position behind its word stands next to it. -/
def decode (code : PrefixCode) (input : ByteArray) (position : Nat) :
    Except Fault (Nat × Nat) :=
  decodeFrom code.symbols input code.counts position 0 0 0

end PrefixCode
end Compression
end FlashSlots
