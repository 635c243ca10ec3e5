import TransponderShell.Text.Numeral

/-!
# Object ids

An object id is a number of 64 bits. It is typed in decimal, or behind `0x`, `0o` and `0b` in
hexadecimal, octal and binary, in either letter case. It is shown in hexadecimal.
-/

namespace TransponderShell.Oid

/-- Read an object id. -/
def parse (t : Text) : Except NumeralError Nat :=
  match t.map Char.toLower with
  | '0' :: 'x' :: digits => Numeral.read 16 Numeral.bound64 digits
  | '0' :: 'o' :: digits => Numeral.read 8 Numeral.bound64 digits
  | '0' :: 'b' :: digits => Numeral.read 2 Numeral.bound64 digits
  | digits => Numeral.read 10 Numeral.bound64 digits

/-- The shortest text of an object id. -/
def render (oid : Nat) : Text := "0x" ++ Numeral.hex oid

/-- The text of an object id in a list, with at least eight digits. -/
def renderPadded (oid : Nat) : Text := "0x" ++ Numeral.hexPadded 8 oid

end TransponderShell.Oid
