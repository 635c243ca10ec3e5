/-!
# Binary floating point

`Binary64` holds the finite numbers of the 64-bit binary format, as a sign, a significand and an
exponent of two. `Binary64.ofDecimal` rounds a decimal `m · 10^e` to the nearest of them, a tie to
the even significand, in exact arithmetic; `none` stands for a decimal that rounds beyond the
largest of them.
-/

namespace TransponderShell

/-- A finite number `± significand · 2 ^ exponent`. A number has one representation: the
significand has 53 bits, or fewer at the least exponent. -/
structure Binary64 where
  negative : Bool
  significand : Nat
  exponent : Int
  deriving DecidableEq, Repr

namespace Binary64

/-- The number of bits of a full significand. -/
def precision : Nat := 53

/-- The least number that is too great for a significand. -/
def significandBound : Nat := Nat.pow 2 precision

/-- The least exponent, that of the smallest positive number. -/
def minExponent : Int := -1074

/-- The greatest exponent. -/
def maxExponent : Int := 971

/-- Zero with a sign. -/
def zero (negative : Bool) : Binary64 := ⟨negative, 0, minExponent⟩

/-- The whole number nearest to `num / den`, the even one of two. -/
def roundToEven (num den : Nat) : Nat :=
  let quotient := num / den
  let twice := 2 * (num % den)
  if twice < den then quotient
  else if den < twice then quotient + 1
  else quotient + quotient % 2

/-- The exponent at which a positive `num / den` has a significand of full length, or the least
exponent if that is greater. -/
def exponentOf (num den : Nat) : Int :=
  let low : Int := Nat.log2 num - Nat.log2 den - precision
  let full : Int :=
    if low < 0 then
      if num * Nat.pow 2 low.natAbs / den < significandBound then low else low + 1
    else
      if num / (den * Nat.pow 2 low.natAbs) < significandBound then low else low + 1
  max full minExponent

/-- The nearest number to `± num / den`. -/
def ofRatio (negative : Bool) (num den : Nat) : Option Binary64 :=
  if num = 0 then some (zero negative)
  else
    let e := exponentOf num den
    let m :=
      if e < 0 then roundToEven (num * Nat.pow 2 e.natAbs) den
      else roundToEven num (den * Nat.pow 2 e.natAbs)
    let rounded : Binary64 :=
      if m = significandBound then ⟨negative, significandBound / 2, e + 1⟩ else ⟨negative, m, e⟩
    if rounded.exponent ≤ maxExponent then some rounded else none

/-- The nearest number to `± m · 10 ^ e`. A number of `d` digits lies between `10 ^ (d - 1 + e)`
and `10 ^ (d + e)`, which settles the exponents far outside the format without the power. -/
def ofDecimal (negative : Bool) (m : Nat) (e : Int) : Option Binary64 :=
  if m = 0 then some (zero negative)
  else
    let magnitude : Int := (Nat.toDigits 10 m).length + e
    if magnitude < -400 then some (zero negative)
    else if 400 < magnitude then none
    else if e < 0 then ofRatio negative m (Nat.pow 10 e.natAbs)
    else ofRatio negative (m * Nat.pow 10 e.natAbs) 1

end Binary64

end TransponderShell
