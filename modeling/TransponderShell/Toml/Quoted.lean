import TransponderShell.Text.Numeral
import TransponderShell.Toml.Document

/-!
# Strings in TOML

Basic strings stand between `"` and have escapes, literal strings stand between apostrophes and have
none; both come on one line, or between three marks on several lines. Each function takes the text
behind the opening marks and gives the string and what follows it.

On several lines, a line end directly behind the opening marks is dropped, up to two marks may
stand directly before the closing ones, every line end counts as a line feed, and a backslash at
the end of a line hides it together with all blanks that follow.
-/

namespace TransponderShell.Toml

/-- Whether a character may stand in a string or a comment as it is: no control but the tab. -/
def isPlain (c : Char) : Bool := c = '\t' || (0x20 ≤ c.toNat && c.toNat ≠ 0x7F)

/-- The blanks within a line. -/
def isSpace (c : Char) : Bool := c = ' ' || c = '\t'

/-- The character that a letter behind a backslash stands for. -/
def unescape? (c : Char) : Option Char :=
  if c = '"' ∨ c = '\\' then some c
  else if c = 'b' then some (Char.ofNat 0x08)
  else if c = 't' then some '\t'
  else if c = 'n' then some '\n'
  else if c = 'f' then some (Char.ofNat 0x0C)
  else if c = 'r' then some '\r'
  else none

/-- The character of a number in hexadecimal digits. Surrogates are none. -/
def charOfHex? (digits : Text) : Option Char := do
  let digits ← digits.mapM (Numeral.digit? 16)
  let n := digits.foldl (fun n d => n * 16 + d) 0
  if n < 0xD800 ∨ (0xE000 ≤ n ∧ n < 0x110000) then some (Char.ofNat n) else none

/-- Put a character in front of a string. -/
def push (c : Option Char) (s : Option (Text × Text)) : Option (Text × Text) :=
  match c, s with
  | some c, some (t, rest) => some (c :: t, rest)
  | _, _ => none

/-- Take a basic string on one line. -/
def takeBasic : Text → Option (Text × Text)
  | [] => none
  | '"' :: rest => some ([], rest)
  | '\\' :: 'u' :: a :: b :: c :: d :: rest => push (charOfHex? [a, b, c, d]) (takeBasic rest)
  | '\\' :: 'U' :: a :: b :: c :: d :: e :: f :: g :: h :: rest =>
    push (charOfHex? [a, b, c, d, e, f, g, h]) (takeBasic rest)
  | '\\' :: c :: rest => push (unescape? c) (takeBasic rest)
  | c :: rest => if isPlain c then push (some c) (takeBasic rest) else none

/-- Take a literal string on one line. -/
def takeLiteral : Text → Option (Text × Text)
  | [] => none
  | '\'' :: rest => some ([], rest)
  | c :: rest => if isPlain c then push (some c) (takeLiteral rest) else none

/-- Whether the rest of the line is blank and ends. -/
def endsLine : Text → Bool
  | '\n' :: _ => true
  | '\r' :: '\n' :: _ => true
  | c :: rest => isSpace c && endsLine rest
  | [] => false

/-- Take a basic string on several lines. While the flag is set, blanks and line ends are left
out. -/
def takeBasicLines : Bool → Text → Option (Text × Text)
  | _, [] => none
  | true, '\n' :: rest => takeBasicLines true rest
  | true, '\r' :: '\n' :: rest => takeBasicLines true rest
  | _, '"' :: '"' :: '"' :: '"' :: '"' :: rest => some (['"', '"'], rest)
  | _, '"' :: '"' :: '"' :: '"' :: rest => some (['"'], rest)
  | _, '"' :: '"' :: '"' :: rest => some ([], rest)
  | _, '\r' :: '\n' :: rest => push (some '\n') (takeBasicLines false rest)
  | _, '\n' :: rest => push (some '\n') (takeBasicLines false rest)
  | _, '\\' :: 'u' :: a :: b :: c :: d :: rest =>
    push (charOfHex? [a, b, c, d]) (takeBasicLines false rest)
  | _, '\\' :: 'U' :: a :: b :: c :: d :: e :: f :: g :: h :: rest =>
    push (charOfHex? [a, b, c, d, e, f, g, h]) (takeBasicLines false rest)
  | _, '\\' :: c :: rest =>
    if endsLine (c :: rest) then takeBasicLines true rest
    else push (unescape? c) (takeBasicLines false rest)
  | skip, c :: rest =>
    if skip && isSpace c then takeBasicLines true rest
    else if isPlain c then push (some c) (takeBasicLines false rest)
    else none

/-- Take a literal string on several lines. -/
def takeLiteralLines : Text → Option (Text × Text)
  | [] => none
  | '\'' :: '\'' :: '\'' :: '\'' :: '\'' :: rest => some (['\'', '\''], rest)
  | '\'' :: '\'' :: '\'' :: '\'' :: rest => some (['\''], rest)
  | '\'' :: '\'' :: '\'' :: rest => some ([], rest)
  | '\r' :: '\n' :: rest => push (some '\n') (takeLiteralLines rest)
  | '\n' :: rest => push (some '\n') (takeLiteralLines rest)
  | c :: rest => if isPlain c then push (some c) (takeLiteralLines rest) else none

/-- Drop a line end. -/
def dropLineEnd : Text → Text
  | '\n' :: rest => rest
  | '\r' :: '\n' :: rest => rest
  | rest => rest

/-- Take a string with its marks, on one line. -/
def takeLine? : Text → Option (Text × Text)
  | '"' :: rest => takeBasic rest
  | '\'' :: rest => takeLiteral rest
  | _ => none

/-- Take a string with its marks, on one line or several. -/
def takeQuoted? : Text → Option (Text × Text)
  | '"' :: '"' :: '"' :: rest => takeBasicLines false (dropLineEnd rest)
  | '\'' :: '\'' :: '\'' :: rest => takeLiteralLines (dropLineEnd rest)
  | rest => takeLine? rest

end TransponderShell.Toml
