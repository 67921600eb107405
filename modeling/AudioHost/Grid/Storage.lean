import AudioHost.Grid.Columns

/-!
Columns as they lie in memory, with every step checked.

A column comes with a signed byte: 0 if it is kept whole, else the distance to the column that it
refers to, negative if a leading run was dropped and positive if a trailing one was. The steps are
the ones that a machine takes. Each place that is read or written has to exist, each difference and
each part of a row has to lie inside, and each distance has to fit into the byte. A step that
breaks one of these rules is a fault.
-/

namespace AudioHost.Grid

/-- What a step on columns in memory can break. -/
inductive Fault where
  /-- A place is used that does not exist. -/
  | missingPlace
  /-- More is taken from a number than there is. -/
  | belowZero
  /-- A part of a row ends outside of it. -/
  | outsideRow
  /-- A distance does not fit into the signed byte. -/
  | wideDistance
  /-- A reference leads before the first column. -/
  | strayReference
deriving DecidableEq, Repr

/-! ## Checked steps -/

namespace Checked

variable {α : Type}

/-- What is at a place. -/
def read (xs : List α) (i : Nat) : Except Fault α :=
  match xs[i]? with
  | some x => .ok x
  | none => .error .missingPlace

/-- Puts something at a place that exists. -/
def write (xs : List α) (i : Nat) (x : α) : Except Fault (List α) :=
  if i < xs.length then .ok (xs.set i x) else .error .missingPlace

/-- The difference of two numbers. -/
def minus (a b : Nat) : Except Fault Nat := if b ≤ a then .ok (a - b) else .error .belowZero

/-- The part of a row from a place on. -/
def suffix (xs : List α) (n : Nat) : Except Fault (List α) :=
  if n ≤ xs.length then .ok (xs.drop n) else .error .outsideRow

/-- The part of a row before a place. -/
def front (xs : List α) (n : Nat) : Except Fault (List α) :=
  if n ≤ xs.length then .ok (xs.take n) else .error .outsideRow

/-- A distance as a signed byte. -/
def byte (n : Nat) : Except Fault Int8 :=
  if n < 0x80 then .ok (.ofNat n) else .error .wideDistance

/-- The number of places from `i` on, at most `n`, up to which two rows are the same. -/
def sameFrom (xs ys : List Single) (i : Nat) : Nat → Except Fault Nat
  | 0 => .ok 0
  | n + 1 => do
    let x ← read xs i
    let y ← read ys i
    if x = y then return (← sameFrom xs ys (i + 1) n) + 1 else return 0

/-- The number of places before `n`, counted back from it, in which two rows are the same. -/
def sameBefore (xs ys : List Single) : Nat → Except Fault Nat
  | 0 => .ok 0
  | n + 1 => do
    let x ← read xs n
    let y ← read ys n
    if x = y then return (← sameBefore xs ys n) + 1 else return 0

end Checked

/-! ## Cells -/

/-- A column in memory. -/
structure Cell where
  values : List Single
  offset : Int8
deriving DecidableEq, Repr

namespace Cell

/-- A column kept in full. -/
def whole (values : List Single) : Cell := ⟨values, 0⟩

/-- A column that nothing was written to. -/
def gap : Cell := whole []

/-- How far back the reference is. -/
def back (c : Cell) : Nat := c.offset.toInt.natAbs

/-- Which side is dropped and how far back the reference is, for a column to the right. -/
def inherited (c : Cell) : Option Side × Nat :=
  if c.offset = 0 then (none, 1)
  else if c.offset < 0 then (some .leading, c.back + 1)
  else (some .trailing, c.back + 1)

/-- The byte for a way to keep a column. -/
def offsetOf : Truncation → Int8
  | .whole => 0
  | .dropped .leading back => -.ofNat back
  | .dropped .trailing back => .ofNat back

/-- A column put into memory. -/
def ofColumn (c : Column) : Cell := ⟨c.values, offsetOf c.truncation⟩

end Cell

/-! ## The columns in memory -/

/-- Columns in memory, of a nominal height. -/
structure Storage where
  cells : List Cell
  height : Nat
deriving DecidableEq, Repr

/-- The full values of a column, and through how many references they were read. -/
structure Reading where
  values : List Single
  references : Nat
deriving DecidableEq, Repr

namespace Storage

/-- No columns yet. -/
def empty (height : Nat) : Storage := ⟨[], height⟩

/-- Columns put into memory. -/
def ofColumns (s : Columns) : Storage := ⟨s.columns.map .ofColumn, s.height⟩

/-- Puts a column at a place. -/
def put (s : Storage) (index : Nat) (c : Cell) : Except Fault Storage := do
  let cells ← Checked.write s.cells index c
  return { s with cells }

/-- Puts the dropped run back. -/
def splice (c : Cell) (reference : List Single) : Except Fault (List Single) := do
  let n := min c.values.length reference.length
  if 0 < c.offset then return c.values ++ (← Checked.suffix reference n)
  else return (← Checked.front reference (← Checked.minus reference.length n)) ++ c.values

/-- Reads the full values of a column. -/
def expand (s : Storage) (index : Nat) : Except Fault Reading :=
  match s.cells[index]? with
  | none => .error .missingPlace
  | some c =>
    if index = 0 ∨ c.offset = 0 then .ok ⟨resize s.height c.values, 0⟩
    else if index < c.back then .error .strayReference
    else do
      let reference ← s.expand (index - c.back)
      return ⟨← splice c reference.values, reference.references + 1⟩
termination_by index
decreasing_by
  rename_i hnot hback
  have hoffset : c.offset.toInt ≠ 0 := fun h => hnot (.inr (Int8.toInt_inj.mp h))
  simp only [Cell.back] at *
  omega

/-- Stores a column whole if it refers to the one at an index. -/
def detachOne (index : Nat) (s : Storage) (later : Nat) : Except Fault Storage := do
  let c ← Checked.read s.cells later
  if c.offset = 0 then return s
  else
    let target ← Checked.minus later c.back
    if target = index then s.put later (.whole (← s.expand later).values) else return s

/-- Stores whole the columns that refer to the one at an index. -/
def detach (s : Storage) (index : Nat) : Except Fault Storage :=
  let last := min (index + maxBack) (s.cells.length - 1)
  (List.range' (index + 1) (last - index)).foldlM (detachOne index) s

/-- The run that is shared at the front, or none if the other side is the one to look at. -/
def leadingRun (known : Option Side) (values reference : List Single) (height : Nat) :
    Except Fault Nat :=
  if known = some .trailing then .ok 0 else Checked.sameFrom values reference 0 height

/-- The run that is shared at the end, or none if the other side is the one to look at. -/
def trailingRun (known : Option Side) (values reference : List Single) (height : Nat) :
    Except Fault Nat :=
  if known = some .leading then .ok 0 else Checked.sameBefore values reference height

/-- Keeps of values what is not shared with a reference, if enough is shared. -/
def against (known : Option Side) (back : Nat) (values reference : List Single) (height : Nat) :
    Except Fault Cell := do
  let leading ← leadingRun known values reference height
  let trailing ← trailingRun known values reference height
  match known.getD (if leading < trailing then .trailing else .leading) with
  | .leading =>
    if height / 4 < leading then
      return ⟨← Checked.suffix values leading, -(← Checked.byte back)⟩
    else return .whole values
  | .trailing =>
    if height / 4 < trailing then
      return ⟨← Checked.front values (← Checked.minus height trailing), ← Checked.byte back⟩
    else return .whole values

/-- The form in which a column is stored at an index. -/
def truncate (s : Storage) (index : Nat) (values : List Single) : Except Fault Cell :=
  if index = 0 ∨ values.length ≠ s.height then .ok (.whole values)
  else do
    let (known, back) := (← Checked.read s.cells (← Checked.minus index 1)).inherited
    if maxBack < back then return .whole values
    else
      let reference ← s.expand (← Checked.minus index back)
      if reference.values.length ≠ s.height then return .whole values
      else against known back values reference.values s.height

/-- Makes room for an index with gaps. -/
def grow (s : Storage) (index : Nat) : Storage :=
  { s with cells := s.cells ++ List.replicate (index + 1 - s.cells.length) .gap }

/-- Makes room for a column that no other column refers to. -/
def ready (s : Storage) (index : Nat) : Except Fault Storage :=
  if index < s.cells.length then s.detach index else .ok (s.grow index)

/-- Writes the column at an index. -/
def set (s : Storage) (index : Nat) (values : List Single) : Except Fault Storage := do
  let ready ← s.ready index
  ready.put index (← ready.truncate index values)

end Storage

end AudioHost.Grid
