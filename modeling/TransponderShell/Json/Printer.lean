import TransponderShell.Json.Basic

/-!
# JSON text

`Json.render` writes a value on one line without blanks. In a string the quote, the backslash and
the characters below U+0020 are escaped, the rest is written as it is, so a rendered value holds no
line break.
-/

namespace TransponderShell.Json

/-- A character inside a string. -/
def escape (c : Char) : Text :=
  if c = '"' then ['\\', '"']
  else if c = '\\' then ['\\', '\\']
  else if c = '\n' then ['\\', 'n']
  else if c = '\r' then ['\\', 'r']
  else if c = '\t' then ['\\', 't']
  else if c.toNat = 0x08 then ['\\', 'b']
  else if c.toNat = 0x0C then ['\\', 'f']
  else if c.toNat < 0x20 then ['\\', 'u'] ++ Numeral.hexPadded 4 c.toNat
  else [c]

/-- A string in quotes. -/
def quote (t : Text) : Text := '"' :: t.flatMap escape ++ ['"']

/-- A whole number with its sign. -/
def renderInt (n : Int) : Text :=
  if n < 0 then '-' :: Numeral.decimal n.natAbs else Numeral.decimal n.natAbs

mutual

/-- The text of a value. -/
def render : Json → Text
  | null => "null"
  | bool true => "true"
  | bool false => "false"
  | int n => renderInt n
  | float x => x.render
  | string t => quote t
  | array items => '[' :: renderItems items ++ [']']
  | object members => '\x7b' :: renderMembers members ++ ['\x7d']

/-- The items of an array with commas between them. -/
def renderItems : List Json → Text
  | [] => []
  | [v] => render v
  | v :: w :: rest => render v ++ ',' :: renderItems (w :: rest)

/-- The members of an object with commas between them. -/
def renderMembers : List (Text × Json) → Text
  | [] => []
  | [(name, v)] => quote name ++ ':' :: render v
  | (name, v) :: m :: rest => quote name ++ ':' :: render v ++ ',' :: renderMembers (m :: rest)

end

end TransponderShell.Json
