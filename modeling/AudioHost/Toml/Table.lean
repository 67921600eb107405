import AudioHost.Settings.Value

/-!
How the tables of a TOML document grow.

A table that only stands on the way to others may still be given a heading, once, or be extended by
dotted keys. A table that dotted keys made or extended gets no heading. A value is never extended.
-/

namespace AudioHost.Toml

/-- How a table came to be. -/
inductive Origin where
  /-- It stands on the way to a table with a heading. -/
  | passed
  | dotted
  | headed
deriving DecidableEq, Repr

/-- What a key of a table stands for. -/
inductive Node where
  | value (s : Setting)
  | table (origin : Origin) (entries : List (String × Node))
  /-- Tables with one heading; only the last one grows. -/
  | tables (front : List (List (String × Node))) (last : List (String × Node))
deriving Inhabited

/-- The entries of a table. -/
abbrev Entries := List (String × Node)

namespace Entries

/-- Changes what a key stands for, if it can be changed. -/
def alter (key : String) (f : Option Node → Option Node) : Entries → Option Entries
  | [] => (f none).map fun n => [(key, n)]
  | (k, n) :: es =>
    if k = key then (f (some n)).map fun n => (k, n) :: es
    else (alter key f es).map ((k, n) :: ·)

/-- Changes the table that a row of keys leads to. Tables that are missing are made, and tables on
the way of dotted keys count as made by them. -/
def descend (dotted : Bool) (change : Origin → Entries → Option Entries) :
    List String → Origin → Entries → Option Entries
  | [], origin, es => change origin es
  | key :: path, _, es =>
    let fresh : Origin := if dotted then .dotted else .passed
    alter key (fun n => match n with
      | none => (descend dotted change path fresh []).map (Node.table fresh)
      | some (.value _) => none
      | some (.table origin inner) =>
        let origin : Origin := if dotted && origin = .passed then .dotted else origin
        if dotted && origin = .headed then none
        else (descend dotted change path origin inner).map (Node.table origin)
      | some (.tables front last) =>
        (descend dotted change path .headed last).map (Node.tables front)) es

/-! ## Values -/

/-- Puts a value at a key that is free. -/
def putFree (key : String) (s : Setting) : Entries → Option Entries :=
  alter key fun n => match n with
    | none => some (.value s)
    | some _ => none

/-- Puts a value at dotted keys. -/
def putAt (path : List String) (key : String) (s : Setting) : Origin → Entries → Option Entries :=
  descend true
    (fun origin es => if decide (origin = .dotted) == path.isEmpty then none else putFree key s es)
    path

/-! ## Headings -/

/-- Gives the table at a key a heading. -/
def putHeading (key : String) : Entries → Option Entries :=
  alter key fun n => match n with
    | none => some (.table .headed [])
    | some (.table .passed es) => some (.table .headed es)
    | some _ => none

/-- Adds a table to those at a key. -/
def addTable (key : String) : Entries → Option Entries :=
  alter key fun n => match n with
    | none => some (.tables [] [])
    | some (.tables front last) => some (.tables (front ++ [last]) [])
    | some _ => none

end Entries

/-! ## Documents -/

/-- A part of a document. The last key of each stands apart. -/
inductive Line where
  | entry (path : List String) (key : String) (s : Setting)
  | heading (path : List String) (key : String)
  | another (path : List String) (key : String)

/-- What a document has come to: the entries so far, and the table that grows. -/
structure Document where
  entries : Entries
  current : List String

namespace Document

/-- The empty document. -/
def empty : Document := ⟨[], []⟩

/-- Adds a line, if it may stand there. -/
def add (d : Document) : Line → Option Document
  | .entry path key s =>
    (Entries.descend false (Entries.putAt path key s) d.current .headed d.entries).map fun es =>
      { d with entries := es }
  | .heading path key =>
    (Entries.descend false (fun _ es => es.putHeading key) path .headed d.entries).map fun es =>
      ⟨es, path ++ [key]⟩
  | .another path key =>
    (Entries.descend false (fun _ es => es.addTable key) path .headed d.entries).map fun es =>
      ⟨es, path ++ [key]⟩

/-- The document of some lines. -/
def ofLines (lines : List Line) : Option Document := lines.foldlM add empty

end Document

/-! ## Settings -/

mutual

/-- The setting that a key stands for. -/
def Node.setting : Node → Setting
  | .value s => s
  | .table _ es => .table (settings es)
  | .tables front last => .list (listed front ++ [.table (settings last)])

/-- The settings in a table. -/
def settings : List (String × Node) → List (String × Setting)
  | [] => []
  | (key, n) :: es => (key, n.setting) :: settings es

/-- The settings in tables. -/
def listed : List (List (String × Node)) → List Setting
  | [] => []
  | es :: more => .table (settings es) :: listed more

end

end AudioHost.Toml
