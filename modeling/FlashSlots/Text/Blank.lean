namespace FlashSlots
namespace Text

/-!
# Blank characters

The characters that separate words, by the white space property of the
character database.
-/

/-- A character that separates words. -/
def isBlank (char : Char) : Bool :=
  let n := char.toNat
  (decide (0x09 ≤ n) && decide (n ≤ 0x0D)) || n == 0x20 || n == 0x85 || n == 0xA0 ||
    n == 0x1680 || (decide (0x2000 ≤ n) && decide (n ≤ 0x200A)) || n == 0x2028 || n == 0x2029 ||
    n == 0x202F || n == 0x205F || n == 0x3000

/-- The characters without blanks at either end. -/
def trim (chars : List Char) : List Char :=
  ((chars.dropWhile isBlank).reverse.dropWhile isBlank).reverse

end Text
end FlashSlots
