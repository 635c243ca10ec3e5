import TransponderShell.Text.Basic

/-!
# Tables in columns

`Columns.render` lays out rows of cells below headers and a dashed rule. Every column is as wide
as its widest cell in bytes; cells are filled up with spaces to that number of characters, columns
stand two spaces apart, and no line ends in a blank.
-/

namespace TransponderShell.Columns

/-- A cell with spaces behind it up to a number of characters. -/
def pad (width : Nat) (cell : Text) : Text := cell.rightpad width ' '

/-- The cells of a row as one line. -/
def line (cells : List Text) : Text := Text.trimEnd (Text.joinWith "  " cells)

/-- The widths of the columns: the greatest number of bytes of their cells. -/
def widths (headers : List Text) (rows : List (List Text)) : List Nat :=
  rows.foldl (fun widths row => widths.zipWith max (row.map Text.byteSize))
    (headers.map Text.byteSize)

/-- The lines of a table. -/
def render (headers : List Text) (rows : List (List Text)) : List Text :=
  let widths := widths headers rows
  let padded (row : List Text) : Text := line (widths.zipWith pad row)
  padded headers :: line (widths.map fun w => List.replicate w '-') :: rows.map padded

end TransponderShell.Columns
