import TransponderShell.Decimal.Notation

/-!
# JSON values

`Json` is a JSON value whose numbers are whole or binary floating point. `Json.ofAttribute` is the
value that a daemon gives for the text of an attribute: `true` and `false`, whole numbers of 64 bits
with or without a sign, decimals, and every other text as a string.
-/

namespace TransponderShell

/-- A JSON value. The members of an object are kept in the order of their names. -/
inductive Json where
  | null
  | bool (value : Bool)
  | int (value : Int)
  | float (value : Binary64)
  | string (value : Text)
  | array (items : List Json)
  | object (members : List (Text × Json))

namespace Json

/-- Read an optional sign and decimal digits, for a number of 64 bits: below `2 ^ 64`, and with a
minus down to `- 2 ^ 63`. -/
def wholeNumber? : Text → Option Int
  | '-' :: '+' :: _ => none
  | '-' :: digits =>
    match Numeral.read 10 (Numeral.bound63 + 1) digits with
    | .ok n => some (-(n : Int))
    | .error _ => none
  | t =>
    match Numeral.read 10 Numeral.bound64 t with
    | .ok n => some n
    | .error _ => none

/-- The value that the text of an attribute stands for. -/
def ofAttribute (t : Text) : Json :=
  if t = "true" then bool true
  else if t = "false" then bool false
  else match wholeNumber? t with
    | some n => int n
    | none =>
      match Binary64.ofText? t with
      | some x => float x
      | none => string t

end Json

end TransponderShell
