import AudioHost.Grid.Column

/-!
The columns of a grid, with shared runs dropped.

A column refers to its neighbour on the left, or to the column that the neighbour refers to, so
that every reference leads to a column that is kept whole. A column is detached from the columns
that refer to it before it is written anew.
-/

namespace AudioHost.Grid

/-- A growing row of columns of a nominal height. -/
structure Columns where
  columns : List Column
  height : Nat
deriving DecidableEq, Repr

namespace Columns

/-- No columns yet. -/
def empty (height : Nat) : Columns := ⟨[], height⟩

/-- The number of columns, gaps included. -/
def width (s : Columns) : Nat := s.columns.length

/-- Gives the columns another nominal height. What is stored stays as it is. -/
def setHeight (s : Columns) (height : Nat) : Columns := { s with height }

/-- Removes every column. -/
def clear (s : Columns) : Columns := { s with columns := [] }

/-! ## Reading -/

/-- The full values of the column at an index. A reference must lead to an earlier column. -/
def expand (s : Columns) (index : Nat) : List Single :=
  match s.columns[index]? with
  | none => []
  | some ⟨values, .whole⟩ => resize s.height values
  | some ⟨values, .dropped side back⟩ =>
    if 0 < back ∧ back ≤ index then Column.splice side values (s.expand (index - back))
    else resize s.height values
termination_by index

/-- The column at an index, or nothing past the end. -/
def get (s : Columns) (index : Nat) : Option (List Single) :=
  if index < s.width then some (s.expand index) else none

/-- The number of values that are kept of a column. -/
def storedLength (s : Columns) (index : Nat) : Option Nat :=
  s.columns[index]?.map fun c => c.values.length

/-- The number of values that are kept of all columns. -/
def storedTotal (s : Columns) : Nat := s.columns.foldr (fun c total => c.values.length + total) 0

/-- How the column at an index is stored. -/
def truncation (s : Columns) (index : Nat) : Option Truncation :=
  s.columns[index]?.map fun c => c.truncation

/-! ## Writing -/

/-- The column at place `later` refers to the one at place `index`. -/
def refersTo (c : Column) (later index : Nat) : Bool :=
  match c.truncation with
  | .whole => false
  | .dropped _ back => decide (later = index + back)

/-- Stores the column at place `later` whole if it refers to the one at an index. -/
def detachOne (s : Columns) (index later : Nat) : Columns :=
  match s.columns[later]? with
  | none => s
  | some c =>
    if refersTo c later index then
      { s with columns := s.columns.set later (.whole (s.expand later)) }
    else s

/-- Stores whole the columns that refer to the one at an index, one after the other. They are among
the next few. -/
def detach (s : Columns) (index : Nat) : Columns :=
  (List.range' (index + 1) maxBack).foldl (fun s later => s.detachOne index later) s

/-- Which side is dropped and how far back the reference is, for a column to the right of one that
is stored in a given way. -/
def inherited : Truncation → Option Side × Nat
  | .whole => (none, 1)
  | .dropped side back => (some side, back + 1)

/-- The form in which a column is stored at an index. The first column, a column of another length
and a column too far from its reference are stored whole. -/
def truncate (s : Columns) (index : Nat) (values : List Single) : Column :=
  if index = 0 ∨ values.length ≠ s.height then .whole values
  else
    let (known, back) := inherited ((s.truncation (index - 1)).getD .whole)
    if maxBack < back then .whole values
    else
      let reference := s.expand (index - back)
      if reference.length ≠ s.height then .whole values
      else .against known back values reference

/-- Makes room for an index with gaps. -/
def grow (s : Columns) (index : Nat) : Columns :=
  { s with columns := s.columns ++ List.replicate (index + 1 - s.width) .gap }

/-- Writes the column at an index. -/
def set (s : Columns) (index : Nat) (values : List Single) : Columns :=
  let ready := if index < s.width then s.detach index else s.grow index
  { ready with columns := ready.columns.set index (ready.truncate index values) }

end Columns

end AudioHost.Grid
