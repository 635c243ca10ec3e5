import TransponderShell.Decimal.Shortest
import TransponderShell.Text.Numeral

/-!
# Decimal notation

How floating-point numbers are written and read.

* `Binary64.render` writes the shortest decimal: with a point when the decimal exponent is between
  -5 and 15, and at least one digit on either side of the point; otherwise as a digit, a fraction
  if there is one, and a signed exponent.
* `DecimalParts.take?` reads digits, a fraction and an exponent from the front of a text;
  `Binary64.ofText?` accepts a whole text of that form with an optional sign.
-/

namespace TransponderShell

/-- The exponents of the leading digit that are written with a point. -/
structure PositionalRange where
  least : Int
  greatest : Int
  deriving DecidableEq, Repr

namespace Binary64

/-- Numbers from 0.00001 up to 10^16 are written with a point. -/
def positional : PositionalRange := ⟨-5, 15⟩

/-- Digits with a point behind the first `whole` of them, zeros filled in where there are none. -/
def withPoint (digits : Text) (whole : Int) : Text :=
  if whole ≤ 0 then "0." ++ List.replicate whole.natAbs '0' ++ digits
  else
    let n := whole.natAbs
    if digits.length ≤ n then digits ++ List.replicate (n - digits.length) '0' ++ ".0"
    else digits.take n ++ '.' :: digits.drop n

/-- Digits with a point behind the first of them, and an exponent with its sign. -/
def withExponent (digits : Text) (exponent : Int) : Text :=
  let fraction : Text := if digits.length ≤ 1 then [] else '.' :: digits.drop 1
  let sign := if exponent < 0 then '-' else '+'
  digits.take 1 ++ fraction ++ 'e' :: sign :: Numeral.decimal exponent.natAbs

/-- The shortest text that reads back as `x`. -/
def render (x : Binary64) : Text :=
  let sign : Text := if x.negative then ['-'] else []
  if x.significand = 0 then sign ++ "0.0"
  else
    let d := x.shortest
    let digits := Numeral.decimal d.digits
    let leading := d.exponent + digits.length - 1
    if positional.least ≤ leading ∧ leading ≤ positional.greatest then
      sign ++ withPoint digits (leading + 1)
    else sign ++ withExponent digits leading

end Binary64

/-- The decimal digits that a text begins with, and what follows them. -/
def takeDigits (t : Text) : Text × Text := t.span Char.isDigit

/-- The number that decimal digits make. -/
def digitsValue (digits : Text) : Nat :=
  digits.foldl (fun n c => n * 10 + (c.toNat - '0'.toNat)) 0

/-- The parts of a decimal as it is written. -/
structure DecimalParts where
  whole : Text
  /-- The digits behind the point, if there is a point. -/
  fraction : Option Text
  /-- The sign and the digits of the exponent, if there is one. -/
  exponent : Option (Bool × Text)
  deriving DecidableEq, Repr

namespace DecimalParts

/-- Take a sign: whether it is a minus, and the rest. -/
def takeSign : Text → Bool × Text
  | '-' :: rest => (true, rest)
  | '+' :: rest => (false, rest)
  | rest => (false, rest)

/-- Take the parts of a decimal from the front of a text. An exponent mark must have digits. -/
def take? (t : Text) : Option (DecimalParts × Text) :=
  let (whole, rest) := takeDigits t
  let (fraction, rest) : Option Text × Text :=
    match rest with
    | '.' :: more => let (digits, after) := takeDigits more; (some digits, after)
    | _ => (none, rest)
  match rest with
  | c :: more =>
    if c = 'e' ∨ c = 'E' then
      let (negative, more) := takeSign more
      let (digits, after) := takeDigits more
      if digits.isEmpty then none else some (⟨whole, fraction, some (negative, digits)⟩, after)
    else some (⟨whole, fraction, none⟩, rest)
  | [] => some (⟨whole, fraction, none⟩, [])

/-- The exponent as a number, zero if there is none. -/
def exponentValue (p : DecimalParts) : Int :=
  match p.exponent with
  | some (true, digits) => -(digitsValue digits : Int)
  | some (false, digits) => digitsValue digits
  | none => 0

/-- The nearest floating-point number. -/
def toBinary64? (p : DecimalParts) (negative : Bool) : Option Binary64 :=
  let fraction := p.fraction.getD []
  Binary64.ofDecimal negative (digitsValue (p.whole ++ fraction))
    (p.exponentValue - fraction.length)

end DecimalParts

/-- Read a decimal with an optional sign. Digits may be missing before or behind the point, but not
both; a text for a number beyond the format is refused. -/
def Binary64.ofText? (t : Text) : Option Binary64 := do
  let (negative, rest) := DecimalParts.takeSign t
  let (parts, after) ← DecimalParts.take? rest
  if after.isEmpty ∧ ¬ (parts.whole ++ parts.fraction.getD []).isEmpty then
    parts.toBinary64? negative
  else none

/-! ## The ends of the positional range, read and written back -/

example : (Binary64.ofText? "1e15").map Binary64.render = some "1000000000000000.0" := by
  decide +kernel
example : (Binary64.ofText? "1e16").map Binary64.render = some "1e+16" := by decide +kernel
example : (Binary64.ofText? ".00001").map Binary64.render = some "0.00001" := by decide +kernel
example : (Binary64.ofText? ".0000015").map Binary64.render = some "1.5e-6" := by decide +kernel
example : (Binary64.ofText? "-0").map Binary64.render = some "-0.0" := by decide +kernel
example : (Binary64.ofText? "2e308").map Binary64.render = none := by decide +kernel

end TransponderShell
