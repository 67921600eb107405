import AudioHost.Settings.Value
import AudioHost.Text.Split

/-!
Settings on top of others.

A table on top of another adds its entries to it. Everything else takes the place of what was
there. A name may say where below a setting goes: `a.b` is the entry `b` of the table `a`, and
`a[0]` the first value of the list `a`.
-/

namespace AudioHost.Setting

/-! ## Entries -/

/-- The entries of a table. What is none has no entries. -/
def entries : Setting → List (String × Setting)
  | .table es => es
  | _ => []

/-- The values of a list. What is none has no values. -/
def items : Setting → List Setting
  | .list ss => ss
  | _ => []

/-- Changes an entry. One that is missing is made. -/
def alterEntry (name : String) (change : Setting → Setting) :
    List (String × Setting) → List (String × Setting)
  | [] => [(name, change .missing)]
  | (n, s) :: es => if n = name then (n, change s) :: es else (n, s) :: alterEntry name change es

mutual

/-- Puts a setting on top of another. -/
def stack (below : Setting) : Setting → Setting
  | .table es => .table (overAll below.entries es)
  | s => s

/-- Puts entries on top of others. -/
def overAll (below : List (String × Setting)) : List (String × Setting) → List (String × Setting)
  | [] => below
  | (name, s) :: es => overAll (alterEntry name (fun old => stack old s) below) es

end

/-! ## Places -/

/-- A step from a setting to one below it. -/
inductive Step where
  | entry (name : String)
  /-- A value of a list, counted from its end if the number is negative. -/
  | item (index : Int)
deriving DecidableEq, Repr

/-- The values of a list that is long enough for an index, and the place of the index in it. A list
grows in front for an index before its beginning. -/
def stretched (index : Int) (ss : List Setting) : List Setting × Nat :=
  let n : Int := if index < 0 then ss.length + index else index
  if n < 0 then (List.replicate n.natAbs .missing ++ ss, 0)
  else (ss ++ List.replicate (n.toNat + 1 - ss.length) .missing, n.toNat)

/-- Changes what some steps lead to. Tables and lists that are missing are made. -/
def alterAt (change : Setting → Setting) : List Step → Setting → Setting
  | [], s => change s
  | .entry name :: steps, s => .table (alterEntry name (alterAt change steps) s.entries)
  | .item index :: steps, s =>
    let (ss, n) := stretched index s.items
    .list (ss.modify n (alterAt change steps))

/-- Puts a setting on top of what is at a place. -/
def putAt (steps : List Step) (value below : Setting) : Setting :=
  alterAt (fun old => stack old value) steps below

/-! ## Names of places -/

/-- A character of a plain name. -/
def isNameChar (c : Char) : Bool := c.isAlphanum || c == '_' || c == '-'

/-- Reads a whole number in blanks that ends with a bracket. -/
def index? (cs : List Char) : Option (Int × List Char) :=
  (Text.splitFirst? ']' cs).bind fun (inside, rest) =>
    let blank (c : Char) := c = ' ' || c = '\t'
    let word := ((inside.dropWhile blank).reverse.dropWhile blank).reverse
    if word.head? = some '+' then none
    else (wordOf? (String.ofList word)).map fun n => (n, rest)

/-- Reads the steps after the first one. The length of the text bounds their number. -/
def stepsFrom? : Nat → List Char → Option (List Step)
  | _, [] => some []
  | 0, _ => none
  | fuel + 1, '.' :: cs =>
    let (name, rest) := cs.span isNameChar
    if name.isEmpty then none
    else (stepsFrom? fuel rest).map (.entry (String.ofList name) :: ·)
  | fuel + 1, '[' :: cs =>
    (index? cs).bind fun (n, rest) => (stepsFrom? fuel rest).map (.item n :: ·)
  | _ + 1, _ => none

/-- The steps that a name stands for. A name that is not plain is the name of an entry as it is. -/
def stepsOf (name : String) : List Step :=
  ((stepsFrom? (name.length + 1) ('.' :: name.toList))).getD [.entry name]

/-- Puts the entries of a source on top of settings. -/
def addSource (below : Setting) (source : List (String × Setting)) : Setting :=
  source.foldl (fun s (name, value) => putAt (stepsOf name) value s) below

end AudioHost.Setting
