/-!
# Text

Command lines, attribute values and files are lists of characters.

* `isBlank` is the Unicode property `White_Space`; `words` cuts a text into its maximal runs of
  other characters, and `trimStart`, `trimEnd`, `trim` drop blanks at the ends.
* `pieces` cuts a list at every occurrence of a separator and keeps empty pieces, so joining the
  pieces with the separator gives the list back.
* `byteSize` is the length of the UTF-8 encoding `utf8`, the unit of all positions that the shell
  reports.
* `le` is the order of texts by their characters.
-/

namespace TransponderShell

/-- A text is the list of its characters. -/
abbrev Text := List Char

instance : Coe String Text := ⟨String.toList⟩

/-- The characters with the Unicode property `White_Space`. -/
def isBlank (c : Char) : Bool :=
  let n := c.toNat
  (0x09 ≤ n && n ≤ 0x0D) || n == 0x20 || n == 0x85 || n == 0xA0 || n == 0x1680 ||
    (0x2000 ≤ n && n ≤ 0x200A) || n == 0x2028 || n == 0x2029 || n == 0x202F || n == 0x205F ||
    n == 0x3000

/-- Cut a list at every element with the property `p`. There is one piece more than there are such
elements. -/
def piecesBy {α : Type} (p : α → Bool) : List α → List (List α)
  | [] => [[]]
  | a :: rest =>
    if p a then [] :: piecesBy p rest
    else match piecesBy p rest with
      | [] => [[a]]
      | piece :: more => (a :: piece) :: more

/-- Cut a list at every `sep`. -/
def pieces {α : Type} [DecidableEq α] (sep : α) (as : List α) : List (List α) :=
  piecesBy (· = sep) as

namespace Text

/-- The words of a text: what is left of its pieces between blanks without the empty ones. -/
def words (t : Text) : List Text := (piecesBy isBlank t).filter (fun piece => !piece.isEmpty)

/-- Drop the blanks that a text begins with. -/
def trimStart (t : Text) : Text := t.dropWhile isBlank

/-- Drop the blanks that a text ends with. -/
def trimEnd (t : Text) : Text := (t.reverse.dropWhile isBlank).reverse

/-- Drop the blanks at both ends. -/
def trim (t : Text) : Text := t.trimStart.trimEnd

/-- Whether the last character is a blank. -/
def endsBlank (t : Text) : Bool := t.getLast?.any isBlank

/-- The first word, empty if there is none. -/
def firstWord (t : Text) : Text := t.words.headD []

/-- The word that a cursor at the end of the text stands in: empty after a blank. -/
def wordBeforeCursor (t : Text) : Text :=
  if t.endsBlank then [] else t.words.getLastD []

/-- The UTF-8 encoding. -/
def utf8 (t : Text) : List UInt8 := t.flatMap String.utf8EncodeChar

/-- The text of bytes, if they are UTF-8. -/
def ofUtf8? (bytes : List UInt8) : Option Text :=
  (String.fromUTF8? ⟨bytes.toArray⟩).map String.toList

/-- The number of bytes of the UTF-8 encoding. -/
def byteSize (t : Text) : Nat := t.foldr (fun c n => c.utf8Size + n) 0

/-- Whether a text is another one or comes before it, by the numbers of their characters. The order
of the encodings is the same. -/
def le : Text → Text → Bool
  | [], _ => true
  | _ :: _, [] => false
  | c :: s, d :: t => if c = d then le s t else c.toNat < d.toNat

/-- The texts one after another, with `sep` between two neighbours. -/
def joinWith (sep : Text) (ts : List Text) : Text := sep.intercalate ts

/-- The texts with one space between two neighbours. -/
def unwords (ts : List Text) : Text := joinWith [' '] ts

/-- The texts as a list in square brackets. -/
def bracketed (ts : List Text) : Text := '[' :: joinWith ", " ts ++ [']']

end Text

end TransponderShell
