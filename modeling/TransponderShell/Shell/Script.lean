import TransponderShell.Text.Basic

/-!
# Scripts

A script is a list of lines, read from a text or from bytes, where a line need not be text.
-/

namespace TransponderShell

/-- The lines of a script; there is none in place of a line that is not text. -/
abbrev Script := List (Option Text)

namespace Script

/-- Cut at line ends. The last line may go without. -/
def cut {α : Type} [DecidableEq α] (lineEnd : α) (as : List α) : List (List α) :=
  let lines := pieces lineEnd as
  if lines.getLast? = some [] then lines.dropLast else lines

/-- The lines of a text. -/
def ofText (text : Text) : Script := (cut '\n' text).map some

/-- The lines of a file. -/
def ofBytes (bytes : List UInt8) : Script := (cut 10 bytes).map Text.ofUtf8?

/-- Whether a line of a script, without blanks at its ends, is neither blank nor a comment. -/
def isCommand (line : Text) : Bool := !line.isEmpty && line.head? ≠ some '#'

end Script

end TransponderShell
