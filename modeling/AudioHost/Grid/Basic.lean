import AudioHost.Grid.Columns
import AudioHost.Grid.Notice
import AudioHost.Grid.Spread

/-!
A grid of analysis values: one column of bins per window of frames.

The grid widens its extents with every finite value written to it and says what changed. While a
producer fills it in bulk, changed windows are gathered and announced together; when the producer
is done every write is announced at once.
-/

namespace AudioHost

open Grid

/-- A grid of values over time. -/
structure Grid where
  columns : Columns
  sampleRate : Double
  /-- Frames per column. -/
  resolution : Nat
  startFrame : Int
  minimum : Single
  maximum : Single
  haveExtents : Bool
  /-- Every write is announced at once. -/
  notifyOnAdd : Bool
  /-- The least and the greatest start of the windows that wait to be announced. -/
  touched : Option (Int × Int)
  /-- The percentage that the producer has filled. -/
  completion : Nat
  unit : String
  binNames : List String
  binValues : List Single
  binValueUnit : String
deriving DecidableEq, Repr

namespace Grid

/-! ## Making and measuring -/

/-- An empty grid. A resolution of 0 counts as 1. -/
def empty (sampleRate : Double) (resolution bins : Nat) (notifyOnAdd : Bool) : Grid where
  columns := .empty bins
  sampleRate
  resolution := max resolution 1
  startFrame := 0
  minimum := .zero
  maximum := .zero
  haveExtents := false
  notifyOnAdd
  touched := none
  completion := 100
  unit := ""
  binNames := []
  binValues := []
  binValueUnit := ""

/-- The number of columns. -/
def width (g : Grid) : Nat := g.columns.width

/-- The number of bins of a column. -/
def height (g : Grid) : Nat := g.columns.height

/-- The last frame of the window after the last column, counted from the start of the grid. -/
def trueEndFrame (g : Grid) : Int := g.resolution * g.width + (g.resolution - 1)

/-- The values of a column; none past the end. -/
def column (g : Grid) (index : Nat) : List Single := (g.columns.get index).getD []

/-- The value of a bin of a column, or the minimum if there is none. -/
def valueAt (g : Grid) (index bin : Nat) : Single :=
  ((g.columns.get index).bind (·[bin]?)).getD g.minimum

/-- The producer is done. -/
def isReady (g : Grid) : Bool := decide (100 ≤ g.completion)

/-- The name of a bin; empty if it has none. -/
def binName (g : Grid) (n : Nat) : String := g.binNames[n]?.getD ""

/-- The value of a bin; zero if it has none. -/
def binValue (g : Grid) (n : Nat) : Single := g.binValues[n]?.getD .zero

/-! ## Settings that nobody is told of -/

def setStartFrame (g : Grid) (frame : Int) : Grid := { g with startFrame := frame }

/-- Sets the frames per column; 0 counts as 1. -/
def setResolution (g : Grid) (resolution : Nat) : Grid := { g with resolution := max resolution 1 }

def setHeight (g : Grid) (bins : Nat) : Grid := { g with columns := g.columns.setHeight bins }

def setMinimum (g : Grid) (level : Single) : Grid := { g with minimum := level }

def setMaximum (g : Grid) (level : Single) : Grid := { g with maximum := level }

def setUnit (g : Grid) (unit : String) : Grid := { g with unit }

def setBinValues (g : Grid) (values : List Single) : Grid := { g with binValues := values }

def setBinValueUnit (g : Grid) (unit : String) : Grid := { g with binValueUnit := unit }

/-! ## Bin names -/

/-- Names a bin; bins before it without a name get an empty one. -/
def setBinName (g : Grid) (n : Nat) (name : String) : Grid × List Notice :=
  let padded := g.binNames ++ List.replicate (n + 1 - g.binNames.length) ""
  ({ g with binNames := padded.set n name }, [.changed])

/-- Names all bins. -/
def setBinNames (g : Grid) (names : List String) : Grid × List Notice :=
  ({ g with binNames := names }, [.changed])

/-! ## Writing columns -/

/-- The smallest and largest level so far, and whether a write moved one of them. -/
structure Extents where
  minimum : Single
  maximum : Single
  known : Bool
  moved : Bool
deriving DecidableEq, Repr

namespace Extents

/-- Takes one more finite value into account. -/
def widen (e : Extents) (v : Single) : Extents :=
  let below := !e.known || v.lt e.minimum
  let above := !e.known || e.maximum.lt v
  { minimum := if below then v else e.minimum
    maximum := if above then v else e.maximum
    known := true
    moved := e.moved || below || above }

/-- Takes the finite ones of some values into account. -/
def widenAll (e : Extents) (values : List Single) : Extents :=
  (values.filter Single.isFinite).foldl widen e

end Extents

/-- The extents of a grid before a write. -/
def extents (g : Grid) : Extents := ⟨g.minimum, g.maximum, g.haveExtents, false⟩

/-- The first frame of the window of a column, counted from the start of the grid. -/
def windowStart (g : Grid) (index : Nat) : Int := index * g.resolution

/-- Adds the start of a window to those that wait. -/
def touch (start : Int) : Option (Int × Int) → Option (Int × Int)
  | none => some (start, start)
  | some (low, high) => some (min low start, max high start)

/-- Writes a column. A write that moves the extents is announced as a change of everything, also
in bulk, where the waiting windows are then forgotten. Any other write is announced by its window,
or its window waits. -/
def setColumn (g : Grid) (index : Nat) (values : List Single) : Grid × List Notice :=
  let e := g.extents.widenAll values
  let start := g.windowStart index
  let written := { g with
    columns := g.columns.set index values
    minimum := e.minimum
    maximum := e.maximum
    haveExtents := e.known }
  if g.notifyOnAdd then
    (written, [if e.moved then .changed else .changedWithin start (start + g.resolution)])
  else if e.moved then ({ written with touched := none }, [.changed])
  else ({ written with touched := touch start g.touched }, [])

/-! ## Completion -/

/-- Records progress; more than 100 counts as 100, and a report of what is known already does
nothing. At 100 every later write is announced at once. Below it, `update` announces the windows
that wait. -/
def setCompletion (g : Grid) (completion : Nat) (update : Bool) : Grid × List Notice :=
  let completion := min completion 100
  if g.completion = completion then (g, [])
  else
    let g := { g with completion }
    if completion = 100 then ({ g with notifyOnAdd := true }, [.changed, .ready])
    else if g.notifyOnAdd then (g, [.completionChanged])
    else match update, g.touched with
      | true, some (low, high) =>
        ({ g with touched := none }, [.changedWithin low (high + g.resolution)])
      | _, _ => (g, [.completionChanged])

/-! ## Scale -/

/-- Adds a column to the sums of each bin; each sum comes with the number of columns in it. -/
def addColumn : List (Float × Nat) → List Single → List (Float × Nat)
  | sums, [] => sums
  | [], v :: vs => (0 + v.toDouble.toMachine, 1) :: addColumn [] vs
  | (sum, n) :: sums, v :: vs => (sum + v.toDouble.toMachine, n + 1) :: addColumn sums vs

/-- The mean of each bin over the columns 0, 10, 20, … 90. -/
def sampledMeans (g : Grid) : List Double :=
  let sampled := (List.range 10).filterMap fun i => g.columns.get (10 * i)
  (sampled.foldl addColumn []).map fun (sum, n) => .ofMachine (sum / n.toFloat)

/-- The values are better shown on a logarithmic scale. -/
def prefersLogValues (g : Grid) : Bool := prefersLogScale g.sampledMeans

end Grid

end AudioHost
