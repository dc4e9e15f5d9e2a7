import FlashSlots.Text.Hex
import FlashSlots.Text.Visible

namespace FlashSlots
namespace Text

/-!
# Quoted text

Messages put paths between double quotes.  Quotes and backslashes inside are
escaped, the usual control characters have short escapes, and every other
character that would not show is given by its number.
-/

/-- A character between the quotes. -/
def quotedChar (char : Char) : List Char :=
  if char = '\x00' then ['\\', '0']
  else if char = '\t' then ['\\', 't']
  else if char = '\n' then ['\\', 'n']
  else if char = '\r' then ['\\', 'r']
  else if char = '"' then ['\\', '"']
  else if char = '\\' then ['\\', '\\']
  else if isVisible char then [char]
  else ['\\', 'u', '\x7b'] ++ hexDigits char.toNat ++ ['\x7d']

/-- A text between quotes. -/
def quoted (text : String) : String :=
  String.ofList (['"'] ++ text.toList.flatMap quotedChar ++ ['"'])

end Text
end FlashSlots
