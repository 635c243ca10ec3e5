import TransponderShell.Decimal.Notation
import TransponderShell.Toml.Document

/-!
# Values without quotes in TOML

Booleans, whole numbers, numbers with a fraction, dates and times. Each is recognised as a whole
word by `Toml.scalar?`.
-/

namespace TransponderShell.Toml

/-! ## Numbers -/

/-- Whether the text is digits, with single underscores between two of them at most. -/
def isDigits (digit : Char → Bool) : Text → Bool
  | [] => false
  | [c] => digit c
  | c :: '_' :: rest => digit c && isDigits digit rest
  | c :: rest => digit c && isDigits digit rest

/-- The text without underscores. -/
def withoutUnderscores (t : Text) : Text := t.filter (· ≠ '_')

/-- Whether the text is the digits of a decimal whole number: no zero in front. -/
def isWhole (t : Text) : Bool :=
  isDigits Char.isDigit t && match t with
    | '0' :: _ :: _ => false
    | _ => true

/-- The number of digits in a radix. -/
def radixValue? (radix : Nat) (t : Text) : Option Nat :=
  if isDigits (fun c => (Numeral.digit? radix c).isSome) t then
    (Numeral.read radix Numeral.bound63 (withoutUnderscores t)).toOption
  else none

/-- A whole number of 64 bits: decimal with an optional sign, or in another radix without one. -/
def integer? (t : Text) : Option Int :=
  match t with
  | '0' :: 'x' :: digits => (radixValue? 16 digits).map Int.ofNat
  | '0' :: 'o' :: digits => (radixValue? 8 digits).map Int.ofNat
  | '0' :: 'b' :: digits => (radixValue? 2 digits).map Int.ofNat
  | _ =>
    let (negative, digits) := DecimalParts.takeSign t
    if isWhole digits then
      let n := digitsValue (withoutUnderscores digits)
      if negative ∧ n ≤ Numeral.bound63 then some (-(n : Int))
      else if ¬ negative ∧ n < Numeral.bound63 then some n
      else none
    else none

/-- Whether the text is digits behind an optional sign. -/
def isExponent (t : Text) : Bool := isDigits Char.isDigit (DecimalParts.takeSign t).2

/-- Whether the text is a number with a fraction, an exponent or both, infinite or no number. -/
def isFloat (t : Text) : Bool :=
  let (_, t) := DecimalParts.takeSign t
  let isMark (c : Char) : Bool := c = 'e' || c = 'E'
  if t = "inf" ∨ t = "nan" then true
  else
    let whole := t.takeWhile fun c => !(isMark c || c = '.')
    isWhole whole && match t.drop whole.length with
      | '.' :: rest =>
        let fraction := rest.takeWhile fun c => !isMark c
        isDigits Char.isDigit fraction && match rest.drop fraction.length with
          | [] => true
          | _ :: exponent => isExponent exponent
      | _ :: exponent => isExponent exponent
      | [] => false

/-! ## Dates and times -/

/-- The number of two digits. -/
def twoDigits? (a b : Char) : Option Nat :=
  if a.isDigit && b.isDigit then some (digitsValue [a, b]) else none

/-- Whether two digits make a number in a range. -/
def inRange (low high : Nat) (a b : Char) : Bool :=
  (twoDigits? a b).any fun n => low ≤ n && n ≤ high

/-- The number of days of a month. -/
def daysOf (year month : Nat) : Nat :=
  if month = 2 then
    if year % 4 = 0 ∧ (year % 100 ≠ 0 ∨ year % 400 = 0) then 29 else 28
  else if month = 4 ∨ month = 6 ∨ month = 9 ∨ month = 11 then 30
  else 31

/-- Whether the text is a day, `YYYY-MM-DD`. -/
def isDay : Text → Bool
  | [a, b, c, d, '-', e, f, '-', g, h] =>
    [a, b, c, d].all Char.isDigit && inRange 1 12 e f &&
      inRange 1 (daysOf (digitsValue [a, b, c, d]) (digitsValue [e, f])) g h
  | _ => false

/-- What follows a time of day, `HH:MM:SS` with an optional fraction. -/
def afterTime? : Text → Option Text
  | a :: b :: ':' :: c :: d :: ':' :: e :: f :: rest =>
    if inRange 0 23 a b && inRange 0 59 c d && inRange 0 60 e f then
      match rest with
      | '.' :: fraction =>
        let (digits, after) := takeDigits fraction
        if digits.isEmpty then none else some after
      | _ => some rest
    else none
  | _ => none

/-- Whether the text is a distance from universal time. -/
def isOffset : Text → Bool
  | [z] => z = 'Z' || z = 'z'
  | [sign, a, b, ':', c, d] =>
    (sign = '+' || sign = '-') && inRange 0 23 a b && inRange 0 59 c d
  | _ => false

/-- Whether the text is a day, a time, or both with or without an offset. -/
def isDate (t : Text) : Bool :=
  let day := t.take 10
  if isDay day then
    match t.drop 10 with
    | [] => true
    | c :: time =>
      (c = 'T' || c = 't' || c = ' ') &&
        (afterTime? time).any fun rest => rest.isEmpty || isOffset rest
  else afterTime? t = some []

/-! ## All of them -/

/-- The value of a word without quotes. -/
def scalar? (t : Text) : Option Toml :=
  if t = "true" then some (boolean true)
  else if t = "false" then some (boolean false)
  else match integer? t with
    | some n => some (integer n)
    | none =>
      if isFloat t then some (float t)
      else if isDate t then some (date t)
      else none

end TransponderShell.Toml
