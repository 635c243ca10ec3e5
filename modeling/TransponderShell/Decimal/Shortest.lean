import TransponderShell.Decimal.Binary64

/-!
# The shortest decimal of a floating-point number

The decimals that round to a number fill an interval around it. `Binary64.shortest` looks through
the decimal grids of 1, 2, … 17 digits; the first grid with a point in the interval has the least
number of digits that read back. Of the two grid points beside the number it takes the nearer one,
of two equally near ones the even one.
-/

namespace TransponderShell

/-- A decimal `digits · 10 ^ exponent`. -/
structure Decimal where
  digits : Nat
  exponent : Int
  deriving DecidableEq, Repr

namespace Decimal

/-- Move factors of ten from the digits to the exponent, at most `fuel` of them. -/
def dropZeros : Nat → Decimal → Decimal
  | 0, d => d
  | fuel + 1, d =>
    if d.digits ≠ 0 ∧ d.digits % 10 = 0 then dropZeros fuel ⟨d.digits / 10, d.exponent + 1⟩ else d

end Decimal

/-- The positive numbers that round to one number, over a common denominator. -/
structure RoundingInterval where
  /-- The number itself. -/
  value : Nat
  low : Nat
  high : Nat
  denominator : Nat
  /-- Whether the ends belong to the interval. -/
  closed : Bool
  deriving DecidableEq, Repr

namespace RoundingInterval

/-- Whether the point `c · 10 ^ e` of a grid lies in the interval. -/
def contains (i : RoundingInterval) (c : Nat) (e : Int) : Bool :=
  let up := if e < 0 then 1 else Nat.pow 10 e.natAbs
  let down := if e < 0 then Nat.pow 10 e.natAbs else 1
  let point := c * up * i.denominator
  if i.closed then i.low * down ≤ point && point ≤ i.high * down
  else i.low * down < point && point < i.high * down

/-- The point of the grid of step `10 ^ e` that lies in the interval, the nearer of two, the even
one of two equally near ones. -/
def gridPoint? (i : RoundingInterval) (e : Int) : Option Nat :=
  let up := if e < 0 then 1 else Nat.pow 10 e.natAbs
  let down := if e < 0 then Nat.pow 10 e.natAbs else 1
  let step := up * i.denominator
  let below := i.value * down / step
  let rest := i.value * down % step
  let nearest :=
    if 2 * rest < step then below
    else if step < 2 * rest then below + 1
    else below + below % 2
  let other := if nearest = below then below + 1 else below
  if i.contains nearest e then some nearest
  else if i.contains other e then some other
  else none

/-- The number of digits before the point of the value; zero or less counts the zeros after it. -/
def pointPosition (i : RoundingInterval) : Int :=
  if i.denominator ≤ i.value then (Nat.toDigits 10 (i.value / i.denominator)).length
  else
    let zeros := (Nat.toDigits 10 (i.denominator / i.value)).length
    if i.denominator = i.value * Nat.pow 10 (zeros - 1) then 2 - (zeros : Int)
    else 1 - (zeros : Int)

end RoundingInterval

namespace Binary64

/-- The decimals that round to the magnitude of a number other than zero: half the distance to the
next number on either side, which is half as far below a power of two. -/
def interval (x : Binary64) : RoundingInterval :=
  let below :=
    if x.significand = significandBound / 2 ∧ minExponent < x.exponent then 1 else 2
  let scale := x.exponent - 2
  let factor := if scale < 0 then 1 else Nat.pow 2 scale.natAbs
  { value := 4 * x.significand * factor
    low := (4 * x.significand - below) * factor
    high := (4 * x.significand + 2) * factor
    denominator := if scale < 0 then Nat.pow 2 scale.natAbs else 1
    closed := x.significand % 2 = 0 }

/-- The decimal with the fewest digits that rounds to the magnitude of `x`. -/
def shortest (x : Binary64) : Decimal :=
  if x.significand = 0 then ⟨0, 0⟩
  else
    let i := x.interval
    let p := i.pointPosition
    let found := (List.range 17).findSome? fun (n : Nat) =>
      let e : Int := p - (n + 1)
      (i.gridPoint? e).map fun c => Decimal.dropZeros 17 ⟨c, e⟩
    found.getD ⟨0, 0⟩

end Binary64

end TransponderShell
