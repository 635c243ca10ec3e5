import TransponderShell.Toml.Quoted
import TransponderShell.Toml.Scalar

/-!
# Reading TOML

`Toml.ofText?` reads a document of TOML 1.0 as its top-level members; `none` stands for every
fault of form, a name that is given twice among them.

A document is read line by line, where a value may take up several lines. Values are read with
fuel that covers the length of the text; arrays and inline tables are at most `maxDepth` deep, and
a dotted key has at most `maxDepth` parts.
-/

namespace TransponderShell.Toml

/-- Takes something from the front of a text. -/
abbrev Scan := StateT Text Option

/-- The greatest depth of values and the greatest length of keys. -/
def maxDepth : Nat := 79

namespace Scan

/-- Take the given text. -/
def exactly (t : Text) : Scan Unit := fun text =>
  if t.isPrefixOf text then some ((), text.drop t.length) else none

/-- The first character, which is not taken. -/
def peek : Scan (Option Char) := fun text => some (text.head?, text)

/-- Drop blanks within the line. -/
def spaces : Scan Unit := fun text => some ((), text.dropWhile isSpace)

/-- Take a comment, if one begins here. -/
def comment : Scan Unit := fun text =>
  match text with
  | '#' :: rest => some ((), rest.dropWhile isPlain)
  | _ => some ((), text)

/-- Take a line end. -/
def lineEnd : Scan Unit := fun text =>
  match text with
  | '\n' :: rest => some ((), rest)
  | '\r' :: '\n' :: rest => some ((), rest)
  | _ => none

/-- Take what may stand behind the last thing on a line, and the line end unless the text ends. -/
def endLine : Scan Unit := do
  spaces
  comment
  match ← peek with
  | none => return ()
  | some _ => lineEnd

/-- Drop blanks, comments and line ends, as many as `fuel`. -/
def gap : Nat → Scan Unit
  | 0 => return ()
  | fuel + 1 => do
    spaces
    comment
    match ← peek with
    | some c => if c = '\n' ∨ c = '\r' then do lineEnd; gap fuel else return ()
    | none => return ()

/-- Drop all blanks, comments and line ends. -/
def gaps : Scan Unit := do gap (← get).length

/-! ## Keys -/

/-- Whether a character may stand in a key without quotes. -/
def isBare (c : Char) : Bool := c.isAlphanum || c = '_' || c = '-'

/-- Take one part of a key. -/
def keyPart : Scan Text := fun text =>
  match takeLine? text with
  | some found => some found
  | none =>
    let (bare, rest) := text.span isBare
    if bare.isEmpty then none else some (bare, rest)

/-- Take the further parts of a dotted key, at most `fuel` of them. -/
def keyParts : Nat → Scan (List Text)
  | 0 => do
    match ← peek with
    | some '.' => failure
    | _ => return []
  | fuel + 1 => do
    match ← peek with
    | some '.' =>
      exactly ['.']
      spaces
      let part ← keyPart
      spaces
      return part :: (← keyParts fuel)
    | _ => return []

/-- Take a dotted key with the blanks around it: the parts before the last one, and the last one. -/
def key : Scan (List Text × Text) := do
  spaces
  let first ← keyPart
  spaces
  let parts := first :: (← keyParts (maxDepth - 1))
  return (parts.dropLast, parts.getLastD [])

/-! ## Values -/

/-- Whether a character ends a word without quotes. -/
def endsWord (c : Char) : Bool :=
  c = ' ' || c = '\t' || c = '\n' || c = '\r' || c = '#' || c = ',' || c = ']' || c = '\x7d'

/-- Take a word without quotes. A day may be followed by a time behind one space. -/
def word : Scan Text := fun text =>
  let (t, rest) := text.span fun c => !endsWord c
  match rest with
  | ' ' :: c :: more =>
    if isDay t && c.isDigit then
      let (time, rest) := (c :: more).span fun c => !endsWord c
      some (t ++ ' ' :: time, rest)
    else some (t, rest)
  | _ => some (t, rest)

/-- Take a value without quotes and brackets. -/
def bareValue : Scan Toml := do
  match scalar? (← word) with
  | some v => return v
  | none => failure

/-- Take a string. -/
def stringValue : Scan Toml := fun text =>
  (takeQuoted? text).map fun (t, rest) => (string t, rest)

mutual

/-- Take a value of at most `depth` containers. -/
def value : Nat → Nat → Scan Toml
  | 0, _ => failure
  | fuel + 1, depth => do
    match ← peek with
    | some '"' => stringValue
    | some '\'' => stringValue
    | some '[' =>
      if depth = 0 then failure
      exactly ['[']
      gaps
      let items ← items fuel (depth - 1)
      return array items
    | some '\x7b' =>
      if depth = 0 then failure
      exactly ['\x7b']
      spaces
      match ← peek with
      | some '\x7d' =>
        exactly ['\x7d']
        return table .inline []
      | _ =>
        let members ← members fuel (depth - 1) []
        return table .inline members
    | _ => bareValue

/-- Take the items of an array and its closing bracket. A comma may stand behind the last item. -/
def items : Nat → Nat → Scan (List Toml)
  | 0, _ => failure
  | fuel + 1, depth => do
    match ← peek with
    | some ']' =>
      exactly [']']
      return []
    | _ =>
      let v ← value fuel depth
      gaps
      match ← peek with
      | some ',' =>
        exactly [',']
        gaps
        return v :: (← items fuel depth)
      | _ =>
        exactly [']']
        return [v]

/-- Take the members of an inline table and its closing brace. They stand on one line. -/
def members : Nat → Nat → Members → Scan Members
  | 0, _, _ => failure
  | fuel + 1, depth, before => do
    let (path, name) ← key
    exactly ['=']
    spaces
    let v ← value fuel depth
    spaces
    match assign path name v before with
    | none => failure
    | some members =>
      match ← peek with
      | some ',' =>
        exactly [',']
        spaces
        Scan.members fuel depth members
      | _ =>
        exactly ['\x7d']
        return members

end

/-! ## Lines -/

/-- What a document consists of so far, and the header that the lines stand under. -/
structure Draft where
  members : Members := []
  header : List Text := []

/-- Fail unless there is a value. -/
def orFail {α : Type} (x : Option α) : Scan α :=
  match x with
  | some a => return a
  | none => failure

/-- Take a key and its value. -/
def assignment (d : Draft) : Scan Draft := do
  let (path, name) ← key
  exactly ['=']
  spaces
  let v ← value (2 * (← get).length + 2) maxDepth
  return { d with members := ← orFail (assignBelow d.header path name v d.members) }

/-- Take a header, of a table or of an element of an array of tables. -/
def header (d : Draft) : Scan Draft := do
  exactly ['[']
  match ← peek with
  | some '[' =>
    exactly ['[']
    let (path, name) ← key
    exactly [']', ']']
    return ⟨← orFail (openElement path name d.members), path ++ [name]⟩
  | _ =>
    let (path, name) ← key
    exactly [']']
    return ⟨← orFail (openTable path name d.members), path ++ [name]⟩

/-- Take one line, which may be blank. -/
def line (d : Draft) : Scan Draft := do
  spaces
  let d ← match ← peek with
    | some '[' => header d
    | some c => if c = '#' ∨ c = '\n' ∨ c = '\r' then pure d else assignment d
    | none => pure d
  endLine
  return d

/-- Take all lines, as many as `fuel`. -/
def document : Nat → Draft → Scan Draft
  | 0, d => return d
  | fuel + 1, d => do
    match ← peek with
    | none => return d
    | some _ => document fuel (← line d)

end Scan

/-- A text without the mark that may open a file. -/
def withoutMark : Text → Text
  | c :: rest => if c.toNat = 0xFEFF then rest else c :: rest
  | [] => []

/-- Read a document as its top-level members. -/
def ofText? (t : Text) : Option Members := do
  let t := withoutMark t
  let (draft, rest) ← (Scan.document t.length {}).run t
  if rest.isEmpty then some draft.members else none

end TransponderShell.Toml
