import Mathlib.Data.List.Forall2
import Mathlib.Order.Bounds.Basic
import TransponderShell.Proofs.Text.Blanks
import TransponderShell.Shell.Columns

/-!
# Columns are aligned

Every line of a table shows a row of cells: the headers, the rule or a row (`Columns.grid`). A
column starts at the same number of characters in all of them (`Columns.offset`), and its cell is
read there (`Columns.cellAt`).

* `isGreatest_width` says that a column is as wide as its widest cell in bytes. So it has room for
  the characters of its cells (`length_le_byteSize`).
* `drop_joinWith` says what stands at the offset of a column, and `cellAt_append_blank` that blanks
  that are dropped at the end of a line do not matter for what is read.

The result is `render_aligned`.
-/

namespace TransponderShell

namespace Text

/-- A text has at most as many characters as bytes. -/
theorem length_le_byteSize (t : Text) : t.length ≤ t.byteSize := by
  induction t with
  | nil => exact Nat.le_refl 0
  | cons c t ih =>
    have hpos := c.utf8Size_pos
    rw [List.length_cons, byteSize_cons]
    omega

end Text

namespace Columns

open Text

/-! ## What a reader of a table sees -/

/-- The number of characters in front of column `k`: the columns before it, with two spaces behind
each. -/
def offset (widths : List Nat) (k : Nat) : Nat :=
  (widths.take k).foldr (fun w n => w + 2 + n) 0

/-- What stands in a line at an offset: as many characters as the column is wide, with spaces for
those that the line is short of, and without the blanks at the end. -/
def cellAt (offset width : Nat) (line : Text) : Text :=
  trimEnd (pad width ((line.drop offset).take width))

/-- The rows of cells that the lines of a table show. -/
def grid (headers : List Text) (rows : List (List Text)) : List (List Text) :=
  headers :: (widths headers rows).map (fun w => List.replicate w '-') :: rows

/-- A line shows cells in columns of these widths. -/
structure Shows (widths : List Nat) (cells : List Text) (line : Text) : Prop where
  length : cells.length = widths.length
  /-- Every cell is read at the offset of its column, up to the blanks at its end. -/
  cell : ∀ k w cell, widths[k]? = some w → cells[k]? = some cell →
    cellAt (offset widths k) w line = cell.trimEnd
  /-- The two characters behind a column are spaces, unless the line is over. -/
  gap : ∀ k w, widths[k]? = some w → ∀ c ∈ (line.drop (offset widths k + w)).take 2, c = ' '
  trimmed : line.endsBlank = false

theorem trimEnd_pad (width : Nat) (cell : Text) : trimEnd (pad width cell) = trimEnd cell := by
  refine trimEnd_append_blank (fun c hc => ?_) cell
  rw [List.eq_of_mem_replicate hc]
  decide

/-- Blanks that a line ends with do not matter for what is read. -/
theorem cellAt_append_blank {b : Text} (hb : ∀ c ∈ b, isBlank c = true) (offset width : Nat)
    (line : Text) : cellAt offset width (line ++ b) = cellAt offset width line := by
  have hrest : ∀ c ∈ (b.drop (offset - line.length)).take
      (width - (line.drop offset).length), isBlank c = true :=
    fun c hc => hb c (List.mem_of_mem_drop (List.mem_of_mem_take hc))
  rw [cellAt, trimEnd_pad, List.drop_append, List.take_append, trimEnd_append_blank hrest, cellAt,
    trimEnd_pad]

/-! ## The widths -/

/-- What the widths grow to: those of a column that is in all rows, and no wider than needed. -/
theorem getElem?_foldl_max {rows : List (List Text)} {start : List Nat} {k w : Nat}
    (h : (rows.foldl (fun widths row => widths.zipWith max (row.map Text.byteSize)) start)[k]? =
      some w) :
    ∃ least, start[k]? = some least ∧ least ≤ w ∧
      (∀ row ∈ rows, ∀ cell, row[k]? = some cell → cell.byteSize ≤ w) ∧
      (w = least ∨ ∃ row ∈ rows, ∃ cell, row[k]? = some cell ∧ cell.byteSize = w) := by
  induction rows generalizing start with
  | nil => exact ⟨w, h, Nat.le_refl w, by simp, Or.inl rfl⟩
  | cons row rows ih =>
    obtain ⟨_, hmax, hle, hrows, hor⟩ := ih h
    obtain ⟨least, size, hleast, hsize, rfl⟩ := List.getElem?_zipWith_eq_some.1 hmax
    rw [List.getElem?_map, Option.map_eq_some_iff] at hsize
    obtain ⟨cell, hcell, rfl⟩ := hsize
    refine ⟨least, hleast, by omega, List.forall_mem_cons.2 ⟨fun other hother => ?_, hrows⟩, ?_⟩
    · rw [hcell] at hother
      cases hother
      omega
    · rcases hor with rfl | ⟨other, hother, hmem⟩
      · rcases Nat.le_total cell.byteSize least with hc | hc
        · exact Or.inl (Nat.max_eq_left hc)
        · exact Or.inr ⟨row, List.mem_cons_self .., cell, hcell, (Nat.max_eq_right hc).symm⟩
      · exact Or.inr ⟨other, List.mem_cons_of_mem _ hother, hmem⟩

/-- There is a width for every column. -/
theorem length_widths {headers : List Text} {rows : List (List Text)}
    (h : ∀ row ∈ rows, row.length = headers.length) :
    (widths headers rows).length = headers.length := by
  have hfold : ∀ start : List Nat, start.length = headers.length →
      (rows.foldl (fun widths row => widths.zipWith max (row.map Text.byteSize)) start).length =
        headers.length := by
    induction rows with
    | nil => exact fun start hstart => hstart
    | cons row rows ih =>
      obtain ⟨hrow, hrows⟩ := List.forall_mem_cons.1 h
      intro start hstart
      refine ih hrows _ ?_
      rw [List.length_zipWith, List.length_map, hstart, hrow, Nat.min_self]
  exact hfold _ (List.length_map _)

/-- The sizes in bytes of the cells of a column. -/
def sizes (headers : List Text) (rows : List (List Text)) (k : Nat) : Set Nat :=
  fun n => ∃ row ∈ headers :: rows, ∃ cell, row[k]? = some cell ∧ cell.byteSize = n

/-- **A column is as wide as its widest cell** in bytes. -/
theorem isGreatest_width {headers : List Text} {rows : List (List Text)} {k w : Nat}
    (h : (widths headers rows)[k]? = some w) : IsGreatest (sizes headers rows k) w := by
  obtain ⟨_, hleast, hle, hrows, hor⟩ := getElem?_foldl_max h
  rw [List.getElem?_map, Option.map_eq_some_iff] at hleast
  obtain ⟨header, hheader, rfl⟩ := hleast
  constructor
  · rcases hor with rfl | ⟨row, hrow, hcell⟩
    · exact ⟨headers, List.mem_cons_self .., header, hheader, rfl⟩
    · exact ⟨row, List.mem_cons_of_mem _ hrow, hcell⟩
  · rintro _ ⟨row, hrow, cell, hcell, rfl⟩
    rcases List.mem_cons.1 hrow with rfl | hrow
    · rw [hheader] at hcell
      cases hcell
      exact hle
    · exact hrows row hrow cell hcell

/-! ## The lines -/

@[simp] theorem offset_cons_succ (w : Nat) (ws : List Nat) (k : Nat) :
    offset (w :: ws) (k + 1) = w + 2 + offset ws k := rfl

/-- A row of cells that have room in the columns, by their characters. -/
abbrev Fits (widths : List Nat) (cells : List Text) : Prop :=
  List.Forall₂ (fun w cell => cell.length ≤ w) widths cells

theorem length_pad {width : Nat} {cell : Text} (h : cell.length ≤ width) :
    (pad width cell).length = width := by
  rw [pad, List.rightpad, List.length_append, List.length_replicate]
  omega

/-- Two spaces stand behind the first of joined cells, or nothing does. -/
theorem exists_joinWith_cons (cell : Text) (cells : List Text) :
    ∃ more, joinWith "  " (cell :: cells) = cell ++ more ∧ ∀ c ∈ more.take 2, c = ' ' := by
  cases cells with
  | nil => exact ⟨[], by simp [joinWith], by simp⟩
  | cons next cells =>
    refine ⟨"  " ++ joinWith "  " (next :: cells), ?_, ?_⟩
    · rw [joinWith, List.intercalate_cons_cons, List.append_assoc, joinWith]
    · simp

/-- At the offset of a column stands its cell, filled up with spaces. -/
theorem exists_drop_joinWith {ws : List Nat} {cells : List Text} (h : Fits ws cells)
    {k w : Nat} {cell : Text} (hw : ws[k]? = some w) (hcell : cells[k]? = some cell) :
    cell.length ≤ w ∧ ∃ more,
      (joinWith "  " (ws.zipWith pad cells)).drop (offset ws k) = pad w cell ++ more ∧
        ∀ c ∈ more.take 2, c = ' ' := by
  induction h generalizing k with
  | nil => cases hw
  | @cons first firstCell ws cells hfirst hrest ih =>
    cases k with
    | zero =>
      cases hw
      cases hcell
      exact ⟨hfirst, exists_joinWith_cons ..⟩
    | succ k =>
      obtain ⟨hle, more, hmore, hgap⟩ := ih hw hcell
      refine ⟨hle, more, ?_, hgap⟩
      -- There is another column, so two spaces stand in front of the rest.
      cases hrest with
      | nil => cases hw
      | cons hnext hrest =>
        have hskip : (pad first firstCell ++ "  " : Text).length = first + 2 := by
          rw [List.length_append, length_pad hfirst]
          rfl
        rw [offset_cons_succ, ← hskip, List.zipWith_cons_cons, List.zipWith_cons_cons, joinWith,
          List.intercalate_cons_cons, List.drop_length_add_append]
        exact hmore

/-- A line of cells that have room shows them. -/
theorem shows_line {ws : List Nat} {cells : List Text} (h : Fits ws cells) :
    Shows ws cells (line (ws.zipWith pad cells)) := by
  obtain ⟨blanks, hblanks, hjoined⟩ := trimEnd_append (joinWith "  " (ws.zipWith pad cells))
  rw [← line] at hjoined
  refine ⟨h.length_eq.symm, fun k w cell hw hcell => ?_, fun k w hw c hc => ?_,
    endsBlank_trimEnd _⟩
  · obtain ⟨hle, more, hmore, -⟩ := exists_drop_joinWith h hw hcell
    calc cellAt (offset ws k) w (line (ws.zipWith pad cells))
        = cellAt (offset ws k) w (joinWith "  " (ws.zipWith pad cells)) := by
          rw [hjoined, cellAt_append_blank hblanks]
      _ = trimEnd ((pad w cell ++ more).take w) := by rw [cellAt, hmore, trimEnd_pad]
      _ = trimEnd (pad w cell) := by rw [List.take_left' (length_pad hle)]
      _ = cell.trimEnd := trimEnd_pad w cell
  · obtain ⟨cell, hcell⟩ : ∃ cell, cells[k]? = some cell := by
      have hk := (List.getElem?_eq_some_iff.1 hw).1
      rw [h.length_eq] at hk
      exact ⟨_, List.getElem?_eq_getElem hk⟩
    obtain ⟨hle, more, hmore, hgap⟩ := exists_drop_joinWith h hw hcell
    have hbehind : (joinWith "  " (ws.zipWith pad cells)).drop (offset ws k + w) = more := by
      rw [← List.drop_drop, hmore, List.drop_left' (length_pad hle)]
    refine hgap c ?_
    rw [← hbehind, hjoined, List.drop_append, List.take_append]
    exact List.mem_append_left _ hc

/-- The rule fills its columns. -/
theorem zipWith_pad_rule (ws : List Nat) :
    ws.zipWith pad (ws.map fun w => List.replicate w '-') =
      ws.map fun w => List.replicate w '-' := by
  rw [List.zipWith_map_right, List.zipWith_self]
  simp [pad, List.rightpad]

/-- The lines of a table are the rows of the grid, filled up and joined. -/
theorem render_eq (headers : List Text) (rows : List (List Text)) :
    render headers rows =
      (grid headers rows).map fun cells => line ((widths headers rows).zipWith pad cells) := by
  rw [render, grid, List.map_cons, List.map_cons, zipWith_pad_rule]

/-- All rows of the grid have room. -/
theorem fits_of_mem_grid {headers : List Text} {rows : List (List Text)}
    (h : ∀ row ∈ rows, row.length = headers.length) {cells : List Text}
    (hcells : cells ∈ grid headers rows) : Fits (widths headers rows) cells := by
  have hrow {row : List Text} (hrow : row ∈ headers :: rows) : Fits (widths headers rows) row := by
    have hlength : (widths headers rows).length = row.length := by
      rw [length_widths h]
      rcases List.mem_cons.1 hrow with rfl | hmem
      · rfl
      · exact (h row hmem).symm
    refine List.forall₂_iff_get.2 ⟨hlength, fun k hk hk' => ?_⟩
    have hgreatest := isGreatest_width (List.getElem?_eq_getElem hk)
    exact (length_le_byteSize _).trans
      (hgreatest.2 ⟨row, hrow, _, List.getElem?_eq_getElem hk', rfl⟩)
  rw [grid, List.mem_cons, List.mem_cons] at hcells
  rcases hcells with rfl | rfl | hmem
  · exact hrow (List.mem_cons_self ..)
  · rw [Fits, List.forall₂_map_right_iff, List.forall₂_same]
    intro w _
    rw [List.length_replicate]
  · exact hrow (List.mem_cons_of_mem _ hmem)

/-- **A table is aligned and lossless.** There is a line for the headers, one for the rule and one
for each row. A column is as wide as its widest cell in bytes, it starts at the same character in
all lines, and what is read there is the cell up to the blanks at its end. No line ends in a
blank. -/
theorem render_aligned {headers : List Text} {rows : List (List Text)}
    (h : ∀ row ∈ rows, row.length = headers.length) :
    (render headers rows).length = rows.length + 2 ∧
      (widths headers rows).length = headers.length ∧
      (∀ k w, (widths headers rows)[k]? = some w → IsGreatest (sizes headers rows k) w) ∧
      List.Forall₂ (Shows (widths headers rows)) (grid headers rows) (render headers rows) := by
  refine ⟨by simp [render], length_widths h, fun k w => isGreatest_width, ?_⟩
  rw [render_eq, List.forall₂_map_right_iff, List.forall₂_same]
  exact fun cells hcells => shows_line (fits_of_mem_grid h hcells)

/-- A table with cells of several bytes, with an empty cell at the end of a line and with a cell of
a wide blank. -/
theorem render_aligned_wide :
    widths ["n", "v"] [["é", ""], ["ab", "漢 "], ["\u3000", "x"]] = [3, 4] ∧
      List.Forall₂ (Shows [3, 4])
        [["n", "v"], ["---", "----"], ["é", ""], ["ab", "漢 "], ["\u3000", "x"]]
        ["n    v", "---  ----", "é", "ab   漢", "\u3000    x"] := by
  have hwidths : widths ["n", "v"] [["é", ""], ["ab", "漢 "], ["\u3000", "x"]] = [3, 4] := by
    decide
  have hlines : render ["n", "v"] [["é", ""], ["ab", "漢 "], ["\u3000", "x"]] =
      ["n    v", "---  ----", "é", "ab   漢", "\u3000    x"] := by
    decide
  have haligned := (@render_aligned ["n", "v"] [["é", ""], ["ab", "漢 "], ["\u3000", "x"]]
    (by decide)).2.2.2
  rw [hlines, grid, hwidths] at haligned
  exact ⟨hwidths, haligned⟩

end Columns

end TransponderShell
