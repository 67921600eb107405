import AudioHost.Terminal.Width
import AudioHost.Text.Split

/-!
Tables of text, with rules around every cell.

A column is as wide as its widest line. Cells begin at the left and at the top, with one space on
each side.
-/

namespace AudioHost.Terminal

/-- A table: the names of its columns, and its rows. -/
structure Table where
  header : List String
  rows : List (List String)
deriving DecidableEq, Repr

namespace Table

/-- The lines of a cell. -/
def cellLines (cell : String) : List (List Char) := Text.splitAll '\n' cell.toList

/-- The columns that a cell takes. -/
def cellWidth (cell : String) : Nat := ((cellLines cell).map width).foldl max 0

/-- The widths of some columns, each at least as wide as a cell of a row. -/
def widen (widths : List Nat) (row : List String) : List Nat :=
  List.zipWith max widths (row.map cellWidth)

/-- The widths of the columns. -/
def columnWidths (t : Table) : List Nat := t.rows.foldl widen (t.header.map cellWidth)

/-- A line, filled up with spaces. -/
def padded (room : Nat) (line : List Char) : List Char :=
  line ++ List.replicate (room - width line) ' '

/-- The rule between rows. -/
def rule (widths : List Nat) : String :=
  "+" ++ "+".intercalate (widths.map fun n => String.ofList (List.replicate (n + 2) '-')) ++ "+"

/-- A line across the cells of a row. -/
def lineAt (widths : List Nat) (cells : List (List (List Char))) (n : Nat) : String :=
  let part (room : Nat) (lines : List (List Char)) : String :=
    String.ofList (padded room (lines.getD n []))
  let parts := List.zipWith part widths cells
  "| " ++ " | ".intercalate parts ++ " |"

/-- The lines of a row. -/
def rowLines (widths : List Nat) (row : List String) : List String :=
  let cells := row.map cellLines
  let height := (cells.map List.length).foldl max 0
  (List.range height).map (lineAt widths cells)

/-- The lines of a table. -/
def lines (t : Table) : List String :=
  let widths := t.columnWidths
  rule widths :: (t.header :: t.rows).flatMap fun row => rowLines widths row ++ [rule widths]

/-- The text of a table. -/
def text (t : Table) : String := "\n".intercalate t.lines

end Table

end AudioHost.Terminal
