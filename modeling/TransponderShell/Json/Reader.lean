import TransponderShell.Json.Printer

/-!
# Reading JSON

`Json.ofText?` reads a whole text as one JSON value, in two passes.

* `tokens?` cuts the text into tokens. Strings are unescaped and numbers are read here: a whole
  number outside 64 bits and minus zero become floating point, a number beyond the format is
  refused.
* `Reader` is a machine that takes one token at a time and keeps the containers that are still open.
  At most `maxDepth` containers may be open at a time. Of several members with one name the last one
  counts.
-/

namespace TransponderShell.Json

/-- What a text consists of besides blanks. -/
inductive Token where
  | openArray
  | closeArray
  | openObject
  | closeObject
  | comma
  | colon
  /-- A string, which may be a value or a name. -/
  | text (value : Text)
  /-- A literal or a number. -/
  | scalar (value : Json)

/-! ## Tokens -/

/-- A part of a string: a character, or one half of an escaped UTF-16 text. -/
inductive CodeUnit where
  | char (c : Char)
  | code (n : Nat)
  deriving DecidableEq, Repr

/-- The number of four hexadecimal digits. -/
def hexQuad? (a b c d : Char) : Option Nat := do
  let a ← Numeral.digit? 16 a
  let b ← Numeral.digit? 16 b
  let c ← Numeral.digit? 16 c
  let d ← Numeral.digit? 16 d
  return ((a * 16 + b) * 16 + c) * 16 + d

/-- The character that a letter after a backslash stands for. -/
def unescape? (c : Char) : Option Char :=
  if c = '"' ∨ c = '\\' ∨ c = '/' then some c
  else if c = 'b' then some (Char.ofNat 0x08)
  else if c = 'f' then some (Char.ofNat 0x0C)
  else if c = 'n' then some '\n'
  else if c = 'r' then some '\r'
  else if c = 't' then some '\t'
  else none

/-- Take the parts of a string up to its closing quote. -/
def takeUnits : Text → Option (List CodeUnit × Text)
  | [] => none
  | '"' :: rest => some ([], rest)
  | '\\' :: 'u' :: a :: b :: c :: d :: rest =>
    match hexQuad? a b c d, takeUnits rest with
    | some n, some (units, after) => some (.code n :: units, after)
    | _, _ => none
  | '\\' :: e :: rest =>
    match unescape? e, takeUnits rest with
    | some c, some (units, after) => some (.char c :: units, after)
    | _, _ => none
  | c :: rest =>
    if c.toNat < 0x20 then none
    else match takeUnits rest with
      | some (units, after) => some (.char c :: units, after)
      | none => none

/-- The characters of a string. Two halves of a surrogate pair make one character; a half that
stands alone is refused. -/
def joinUnits : List CodeUnit → Option Text
  | [] => some []
  | .char c :: rest => (joinUnits rest).map (c :: ·)
  | .code high :: .code low :: rest =>
    if 0xD800 ≤ high ∧ high < 0xDC00 then
      if 0xDC00 ≤ low ∧ low < 0xE000 then
        let c := Char.ofNat (0x10000 + (high - 0xD800) * 0x400 + (low - 0xDC00))
        (joinUnits rest).map (c :: ·)
      else none
    else if 0xDC00 ≤ high ∧ high < 0xE000 then none
    else (joinUnits (.code low :: rest)).map (Char.ofNat high :: ·)
  | .code n :: rest =>
    if 0xD800 ≤ n ∧ n < 0xE000 then none else (joinUnits rest).map (Char.ofNat n :: ·)

/-- Take a string behind its opening quote. -/
def takeString (t : Text) : Option (Text × Text) := do
  let (units, after) ← takeUnits t
  return (← joinUnits units, after)

/-- The value of a number. -/
def ofParts? (negative : Bool) (p : DecimalParts) : Option Json :=
  match p.fraction, p.exponent with
  | none, none =>
    let n := digitsValue p.whole
    if ¬ negative ∧ n < Numeral.bound64 then some (int n)
    else if negative ∧ 0 < n ∧ n ≤ Numeral.bound63 then some (int (-(n : Int)))
    else (p.toBinary64? negative).map float
  | _, _ => (p.toBinary64? negative).map float

/-- Take a number: an optional minus, digits without a zero in front, a fraction with digits, an
exponent with digits. -/
def takeNumber (t : Text) : Option (Json × Text) := do
  let (negative, rest) := match t with
    | '-' :: rest => (true, rest)
    | _ => (false, t)
  let (parts, after) ← DecimalParts.take? rest
  let canonical := match parts.whole with
    | [] => false
    | '0' :: _ :: _ => false
    | _ => true
  if canonical && parts.fraction ≠ some [] then
    return (← ofParts? negative parts, after)
  else none

/-- Take one token from the front of a text that begins with no blank. -/
def takeToken : Text → Option (Token × Text)
  | '[' :: rest => some (.openArray, rest)
  | ']' :: rest => some (.closeArray, rest)
  | '\x7b' :: rest => some (.openObject, rest)
  | '\x7d' :: rest => some (.closeObject, rest)
  | ',' :: rest => some (.comma, rest)
  | ':' :: rest => some (.colon, rest)
  | '"' :: rest => (takeString rest).map fun (t, after) => (.text t, after)
  | 't' :: 'r' :: 'u' :: 'e' :: rest => some (.scalar (bool true), rest)
  | 'f' :: 'a' :: 'l' :: 's' :: 'e' :: rest => some (.scalar (bool false), rest)
  | 'n' :: 'u' :: 'l' :: 'l' :: rest => some (.scalar null, rest)
  | t => (takeNumber t).map fun (v, after) => (.scalar v, after)

/-- The blanks of JSON. -/
def isSpace (c : Char) : Bool := c = ' ' || c = '\t' || c = '\n' || c = '\r'

/-- Cut a text of at most `fuel` characters into tokens. -/
def tokensWithin : Nat → Text → Option (List Token)
  | _, [] => some []
  | 0, _ :: _ => none
  | fuel + 1, c :: rest =>
    if isSpace c then tokensWithin fuel rest
    else do
      let (token, after) ← takeToken (c :: rest)
      return token :: (← tokensWithin fuel after)

/-- Cut a text into tokens. -/
def tokens? (t : Text) : Option (List Token) := tokensWithin t.length t

/-! ## The machine -/

/-- A container that is still open, with what it holds so far, last first. -/
inductive Frame where
  | array (items : List Json)
  /-- The value that is read next belongs to `name`. -/
  | object (members : List (Text × Json)) (name : Text)

/-- What the machine waits for, below the containers that are open. -/
inductive Reader where
  | value (above : List Frame)
  /-- An array has just been opened. -/
  | arrayStart (above : List Frame)
  /-- An object has just been opened. -/
  | objectStart (above : List Frame)
  | memberName (members : List (Text × Json)) (above : List Frame)
  | colon (members : List (Text × Json)) (name : Text) (above : List Frame)
  | afterItem (items : List Json) (above : List Frame)
  | afterMember (members : List (Text × Json)) (above : List Frame)
  | done (value : Json)

/-- The greatest number of containers inside one another. -/
def maxDepth : Nat := 127

/-- Put a member in its place among members ordered by name, unless the name is there. -/
def insertMember (name : Text) (v : Json) : List (Text × Json) → List (Text × Json)
  | [] => [(name, v)]
  | (other, w) :: rest =>
    if name = other then (other, w) :: rest
    else if name.le other then (name, v) :: (other, w) :: rest
    else (other, w) :: insertMember name v rest

/-- The members of an object from the ones that were read, last first. -/
def orderedMembers (members : List (Text × Json)) : List (Text × Json) :=
  members.foldl (fun ordered (name, v) => insertMember name v ordered) []

namespace Reader

/-- Put a complete value into the innermost open container. -/
def place (v : Json) : List Frame → Reader
  | [] => done v
  | .array items :: above => afterItem (v :: items) above
  | .object members name :: above => afterMember ((name, v) :: members) above

/-- A value begins with this token. -/
def beginValue (above : List Frame) : Token → Option Reader
  | .scalar v => some (place v above)
  | .text t => some (place (string t) above)
  | .openArray => if above.length < maxDepth then some (arrayStart above) else none
  | .openObject => if above.length < maxDepth then some (objectStart above) else none
  | _ => none

/-- Take one token. -/
def step : Reader → Token → Option Reader
  | value above, token => beginValue above token
  | arrayStart above, .closeArray => some (place (array []) above)
  | arrayStart above, token => beginValue (.array [] :: above) token
  | objectStart above, .closeObject => some (place (object []) above)
  | objectStart above, .text t => some (colon [] t above)
  | memberName members above, .text t => some (colon members t above)
  | colon members name above, .colon => some (value (.object members name :: above))
  | afterItem items above, .comma => some (value (.array items :: above))
  | afterItem items above, .closeArray => some (place (array items.reverse) above)
  | afterMember members above, .comma => some (memberName members above)
  | afterMember members above, .closeObject => some (place (object (orderedMembers members)) above)
  | _, _ => none

/-- Take all tokens. -/
def run : Reader → List Token → Option Reader
  | state, [] => some state
  | state, token :: rest => do run (← step state token) rest

end Reader

/-- Read a whole text as a JSON value. -/
def ofText? (t : Text) : Option Json := do
  match ← Reader.run (.value []) (← tokens? t) with
  | .done v => some v
  | _ => none

/-- The JSON value that a text is, or the text itself as a string if it is none. -/
def ofTextOrString (t : Text) : Json := (ofText? t).getD (string t)

end TransponderShell.Json
