import AudioHost.Number.Binary

/-!
One stored column of a grid.

A column that shares a long run of values with a nearby earlier column keeps only the rest, and the
distance back to the column that the run is copied from. The run is either the leading or the
trailing part. Values are compared as bit patterns, so nothing is lost.
-/

namespace AudioHost.Grid

/-- The furthest back a column may refer. -/
def maxBack : Nat := 6

/-- The end of a column that a run is dropped from. -/
inductive Side where
  | leading
  | trailing
deriving DecidableEq, Repr

/-- How a stored column relates to the one it refers to. -/
inductive Truncation where
  | whole
  | dropped (side : Side) (back : Nat)
deriving DecidableEq, Repr

/-- The values that are kept of a column, and how the rest is found. -/
structure Column where
  values : List Single
  truncation : Truncation
deriving DecidableEq, Repr

namespace Column

/-- A column kept in full. -/
def whole (values : List Single) : Column := ⟨values, .whole⟩

/-- A gap: a column that nothing was written to. -/
def gap : Column := whole []

end Column

/-! ## Runs -/

/-- The length of the longest common leading run of two lists of values. -/
def commonRun : List Single → List Single → Nat
  | x :: xs, y :: ys => if x = y then commonRun xs ys + 1 else 0
  | _, _ => 0

/-- The length of the longest common trailing run of two lists of values. -/
def commonTail (xs ys : List Single) : Nat := commonRun xs.reverse ys.reverse

/-- The run that is shared at a side, or none if the other side is the one to look at. -/
def sharedRun (known : Option Side) (side : Side) (values reference : List Single) : Nat :=
  if known = none ∨ known = some side then
    match side with
    | .leading => commonRun values reference
    | .trailing => commonTail values reference
  else 0

/-- The side that a run is dropped from: the known one, or else the one with the longer run, the
leading one if they are equal. -/
def chosenSide (known : Option Side) (values reference : List Single) : Side :=
  known.getD <|
    if sharedRun known .leading values reference < sharedRun known .trailing values reference then
      .trailing
    else .leading

namespace Column

/-- Keeps of `values` what is not shared with `reference`, if the shared run is longer than a
quarter of the column. -/
def against (known : Option Side) (back : Nat) (values reference : List Single) : Column :=
  let side := chosenSide known values reference
  let run := sharedRun known side values reference
  if values.length / 4 < run then
    match side with
    | .leading => ⟨values.drop run, .dropped .leading back⟩
    | .trailing => ⟨values.take (values.length - run), .dropped .trailing back⟩
  else whole values

/-- Puts the dropped run back, copied from the expanded column that is referred to. -/
def splice (side : Side) (kept reference : List Single) : List Single :=
  let n := min kept.length reference.length
  match side with
  | .leading => reference.take (reference.length - n) ++ kept
  | .trailing => kept ++ reference.drop n

end Column

/-- Cuts or pads with zeros to a height. -/
def resize (height : Nat) (values : List Single) : List Single :=
  values.take height ++ List.replicate (height - values.length) .zero

end AudioHost.Grid
