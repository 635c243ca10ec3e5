import TransponderShell.Text.Basic

/-!
# Numerals

Whole numbers are written and read in a radix between 2 and 16.

* `Numeral.decimal`, `Numeral.hex` and `Numeral.hexPadded` write a number.
* `Numeral.read radix limit` reads an optional `+` and then digits, for a number below `limit`. It
  goes from left to right and stops at the first character that is no digit or makes the number
  too large, so of two faults the leftmost is reported.
-/

namespace TransponderShell

/-- Why a text is not a numeral. -/
inductive NumeralError where
  /-- There is no character at all. -/
  | empty
  /-- There is a character that is no digit of the radix, or no digit after a sign. -/
  | invalidDigit
  /-- The digits so far already reach the limit. -/
  | tooLarge
  deriving DecidableEq, Repr

namespace NumeralError

/-- What is shown for the error. -/
def message : NumeralError → Text
  | empty => "cannot parse integer from empty string"
  | invalidDigit => "invalid digit found in string"
  | tooLarge => "number too large to fit in target type"

end NumeralError

namespace Numeral

/-- The value of a digit or a letter, in either letter case. -/
def digitValue? (c : Char) : Option Nat :=
  if '0' ≤ c ∧ c ≤ '9' then some (c.toNat - '0'.toNat)
  else if 'a' ≤ c ∧ c ≤ 'z' then some (c.toNat - 'a'.toNat + 10)
  else if 'A' ≤ c ∧ c ≤ 'Z' then some (c.toNat - 'A'.toNat + 10)
  else none

/-- The value of a digit of the radix. -/
def digit? (radix : Nat) (c : Char) : Option Nat := (digitValue? c).filter (· < radix)

/-- Read digits onto the number that the digits before them make. -/
def readDigits (radix limit : Nat) (acc : Nat) : Text → Except NumeralError Nat
  | [] => .ok acc
  | c :: rest =>
    match digit? radix c with
    | none => .error .invalidDigit
    | some d =>
      if acc * radix + d < limit then readDigits radix limit (acc * radix + d) rest
      else .error .tooLarge

/-- Read an optional `+` and at least one digit, for a number below `limit`. -/
def read (radix limit : Nat) : Text → Except NumeralError Nat
  | [] => .error .empty
  | ['+'] => .error .invalidDigit
  | '+' :: digits => readDigits radix limit 0 digits
  | digits => readDigits radix limit 0 digits

/-- The bound of the 32-bit numbers: indices and attribute ids. -/
def bound32 : Nat := Nat.pow 2 32

/-- The bound of the 64-bit numbers with a sign, of which the least one is its negative. -/
def bound63 : Nat := Nat.pow 2 63

/-- The bound of the 64-bit numbers: object ids. -/
def bound64 : Nat := Nat.pow 2 64

/-- Read a 32-bit number in decimal. -/
def read32? (t : Text) : Option Nat := (read 10 bound32 t).toOption

/-- A number in decimal. -/
def decimal (n : Nat) : Text := Nat.toDigits 10 n

/-- A number in lowercase hexadecimal. -/
def hex (n : Nat) : Text := Nat.toDigits 16 n

/-- A number in hexadecimal with zeros in front up to `width` digits. -/
def hexPadded (width n : Nat) : Text := (hex n).leftpad width '0'

end Numeral

end TransponderShell
