import AudioHost.Command.Request
import AudioHost.Json.Printer
import AudioHost.Terminal.Table

/-!
Lists of results, as tables or as JSON.
-/

namespace AudioHost.Command

/-- One value in a list of results. -/
inductive Cell where
  | text (s : String)
  | count (n : Nat)
  | flag (b : Bool)
deriving DecidableEq, Repr

namespace Cell

/-- A value in a table. -/
def shown : Cell → String
  | .text s => s
  | .count n => toString n
  | .flag b => if b then "true" else "false"

/-- A value as JSON. -/
def json : Cell → Json
  | .text s => .string s
  | .count n => .natural n
  | .flag b => .bool b

end Cell

/-- A list of results. Each column has a name in JSON and a heading in tables. -/
structure Listing where
  columns : List (String × String)
  rows : List (List Cell)
deriving DecidableEq, Repr

namespace Listing

/-- What is shown in place of an empty table. -/
def nothing : String := "No results found."

/-- The list as a table. -/
def table (l : Listing) : Terminal.Table :=
  ⟨l.columns.map (·.2), l.rows.map fun row => row.map Cell.shown⟩

/-- The list as JSON. -/
def json (l : Listing) : Json :=
  .array (l.rows.map fun row => .object ((l.columns.map (·.1)).zip (row.map Cell.json)))

/-- The text of a list. -/
def text (l : Listing) : Format → String
  | .table => if l.rows.isEmpty then nothing else l.table.text
  | .json => l.json.pretty ""

end Listing

end AudioHost.Command
