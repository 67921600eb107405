import AudioHost.Grid.Basic
import AudioHost.Number.Style
import AudioHost.Text.Markup

/-!
A grid as text: rows of cells for the windows in a range of frames, and a markup document.
-/

namespace AudioHost.Grid

/-! ## Rows -/

/-- The headers of the cells of a row: `Bin1`, `Bin2`, …. -/
def headers (g : Grid) : List String := (List.range g.height).map fun n => s!"Bin{n + 1}"

/-- The largest frame number. -/
def lastFrame : Int := 0x7FFFFFFFFFFFFFFF

/-- The least frame number. -/
def firstFrame : Int := -0x8000000000000000

/-- The sum of two frame numbers, kept within the frames. -/
def frameSum (a b : Int) : Int := max firstFrame (min lastFrame (a + b))

/-- The frame number that has the same 64 bits. -/
def wrapped (n : Int) : Int := Int.bmod n 0x10000000000000000

/-- The first frame of a column. Beyond the last frame the numbers go on with the least one. -/
def columnFrame (g : Grid) (index : Nat) : Int := wrapped (g.startFrame + g.windowStart index)

/-- The columns whose first frame lies in `start ≤ f < start + duration`. -/
def columnsWithin (g : Grid) (start duration : Int) : List Nat :=
  (List.range g.width).filter fun i =>
    start ≤ g.columnFrame i && g.columnFrame i < frameSum start duration

/-- The cells of a column. -/
def cells (g : Grid) (index : Nat) : List String := (g.column index).map NumberStyle.plain.single

/-- One row of cells for each column whose first frame lies in a range. -/
def rows (g : Grid) (start duration : Int) : List (List String) :=
  (g.columnsWithin start duration).map g.cells

/-! ## Markup -/

/-- An attribute with its value in quotes. -/
def field (name value : String) : String := s!" {name}=\"{value}\""

/-- The element that describes the grid. Extra attributes are added as they are. -/
def modelElement (g : Grid) (id extra : String) : String :=
  let level := NumberStyle.plain.single
  String.join [
    "<model",
    field "id" id,
    field "sampleRate" (NumberStyle.plain.double g.sampleRate),
    field "start" (toString g.startFrame),
    field "end" (toString (wrapped (g.startFrame + g.trueEndFrame))),
    field "type" "dense",
    field "dimensions" "3",
    field "windowSize" (toString g.resolution),
    field "yBinCount" (toString g.height),
    field "minimum" (level g.minimum),
    field "maximum" (level g.maximum),
    field "dataset" id,
    field "startFrame" (toString g.startFrame),
    if extra.isEmpty then "" else " " ++ extra,
    "/>"]

/-- The elements of the bins that have a name. -/
def binElements (g : Grid) : List String :=
  g.binNames.zipIdx.filterMap fun (name, n) =>
    if name.isEmpty then none
    else some ("  <bin" ++ field "number" (toString n) ++
      field "name" (Markup.escape name) ++ "/>")

/-- The elements of the columns. -/
def rowElements (g : Grid) : List String :=
  (List.range g.width).map fun i =>
    "  <row" ++ field "n" (toString i) ++ ">" ++ " ".intercalate (g.cells i) ++ "</row>"

/-- The grid as a markup document under an id, every line indented. -/
def document (g : Grid) (id indent extra : String) : String :=
  let opening := "<dataset" ++ field "id" id ++ field "dimensions" "3" ++
    field "separator" " " ++ ">"
  let lines := g.modelElement id extra :: opening ::
    (g.binElements ++ g.rowElements ++ ["</dataset>"])
  String.join (lines.map fun line => indent ++ line ++ "\n")

/-- A failure to write a grid. -/
inductive ExportError where
  | write (reason : String)
deriving DecidableEq, Repr

/-- What a failure says. -/
def ExportError.message : ExportError → String
  | .write reason => s!"failed to write cache export: {reason}"

/-- Writes the document to a place with room for a number of bytes. -/
def writeDocument (g : Grid) (id indent extra : String) (room : Option Nat) :
    Except ExportError String :=
  let text := g.document id indent extra
  match room with
  | some n => if n < text.utf8ByteSize then .error (.write "disk full") else .ok text
  | none => .ok text

end AudioHost.Grid
