import TransponderShell.Text.Printable
import TransponderShell.Text.Numeral

/-!
# Quoted texts

`Text.quoted` shows a text between quotes on one line. The quote, the backslash, line ends, tabs and
the null character are written with a backslash and a letter, and every other character that is not
shown as it is by its number.
-/

namespace TransponderShell.Text

/-- A character between quotes. -/
def quoteChar (c : Char) : Text :=
  if c = '"' then ['\\', '"']
  else if c = '\\' then ['\\', '\\']
  else if c = '\n' then ['\\', 'n']
  else if c = '\r' then ['\\', 'r']
  else if c = '\t' then ['\\', 't']
  else if c.toNat = 0 then ['\\', '0']
  else if isShown c then [c]
  else ['\\', 'u', '\x7b'] ++ Numeral.hex c.toNat ++ ['\x7d']

/-- A text between quotes. -/
def quoted (t : Text) : Text := '"' :: t.flatMap quoteChar ++ ['"']

end TransponderShell.Text
