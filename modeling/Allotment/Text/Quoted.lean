import Allotment.Text.Hidden
import Allotment.Text.Numeral
/-!
# Quoted text

A text in double quotes, as messages show it: the quote and the backslash escaped,
five controls by their letter, every hidden character by its number, and all
other characters as they are.
-/
namespace Allotment.Text

/-- One character as it stands between the quotes. -/
def escaped (c : Char) : List Char :=
  if c = '"' then ['\\', '"']
  else if c = '\\' then ['\\', '\\']
  else if c = '\t' then ['\\', 't']
  else if c = '\r' then ['\\', 'r']
  else if c = '\n' then ['\\', 'n']
  else if c.toNat = 0 then ['\\', '0']
  else if isHidden c then ['\\', 'u', '\x7b'] ++ hexadecimal c.toNat ++ ['\x7d']
  else [c]

/-- The text in double quotes. -/
def quoted (s : String) : String :=
  String.ofList ('"' :: s.toList.flatMap escaped ++ ['"'])

end Allotment.Text
