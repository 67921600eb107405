import AudioHost.Discovery.Scanner
import AudioHost.Native.Reading

/-!
Reading the tables of the candidates.

A library contributes all of its plugins or none: one bad descriptor, or one label that appears
twice, excludes it. Every library is closed again before the next one is opened.
-/

namespace AudioHost

/-- A loader of libraries whose tables can be read. -/
structure TableLoader (σ : Type) extends Loader σ where
  /-- The table behind the symbol for effects of a library that has it. -/
  effects : Library → Table EffectDescriptor
  /-- The table behind the symbol for analysers of a library that has it. -/
  analysers : Library → Table AnalyserDescriptor

/-- The table behind the symbol of a kind of a library that has it. -/
def TableLoader.table {σ : Type} (l : TableLoader σ) (kind : PluginKind) (library : l.Library) :
    Table Descriptor :=
  match kind with
  | .ladspa => (l.effects library).map .effect
  | .vamp => (l.analysers library).map .analyser

/-- The loader of a machine, which reads what libraries export. -/
def Machine.tableLoader : TableLoader Machine where
  toLoader := Machine.loader
  effects o := o.exports.effects.getD .empty
  analysers o := o.exports.analysers.getD .empty

/-- What the candidates for a kind contribute. -/
structure Enumeration where
  /-- The names of the plugins in the order of their discovery. -/
  identifiers : List Identifier
  records : List Record
  failures : List ScanFailure
deriving DecidableEq, Repr

namespace Enumeration

variable {σ : Type}

/-- The records of descriptors. `seen` holds the labels so far with their indices. -/
def recordsFrom (p : Path) (seen : List (String × Nat)) (index : Nat) :
    List Descriptor → Except PluginError (List Record)
  | [] => .ok []
  | d :: ds =>
    match seen.lookup d.label with
    | some first => .error (.duplicateDescriptor p d.label first index)
    | none =>
      match d.record p with
      | .error e => .error e
      | .ok r => (recordsFrom p ((d.label, index) :: seen) (index + 1) ds).map (r :: ·)

/-- The records of what an open library exports for a kind. -/
def recordsOf (l : TableLoader σ) (kind : PluginKind) (p : Path) (library : l.Library) (s : σ) :
    Except PluginError (List Record) × σ :=
  match l.lookup kind.symbol library s with
  | (.error e, s) => (.error e, s)
  | (.ok (), s) => (recordsFrom p [] 0 (l.table kind library).entries, s)

/-- Opens a library, reads its table and closes it. That closing fails does not matter. -/
def library (l : TableLoader σ) (kind : PluginKind) (p : Path) (s : σ) :
    Except PluginError (List Record) × σ :=
  match l.openAt p s with
  | (.error e, s) => (.error e, s)
  | (.ok library, s) =>
    let (records, s) := recordsOf l kind p library s
    let (_, s) := l.close library s
    (records, s)

/-- The status of a library that contributes nothing. -/
def statusOf : PluginError → Status
  | .loadFailure _ _ => .failedToLoadLibrary
  | .symbolMissing _ _ => .failedToFindDescriptor
  | _ => .failedElsewhere

/-- What one candidate contributes. -/
def contribution (kind : PluginKind) (c : Candidate) :
    Except PluginError (List Record) → Enumeration
  | .ok records => ⟨records.map Record.identifier, records, []⟩
  | .error e => ⟨[], [], [⟨kind, c.path, c.tag, statusOf e, e.message⟩]⟩

/-- Nothing is contributed. -/
def empty : Enumeration := ⟨[], [], []⟩

/-- What two parts contribute. -/
def append (a b : Enumeration) : Enumeration :=
  ⟨a.identifiers ++ b.identifiers, a.records ++ b.records, a.failures ++ b.failures⟩

/-- Reads candidates with a loader, in order. -/
def ofLoader (l : TableLoader σ) (kind : PluginKind) : List Candidate → σ → Enumeration × σ
  | [], s => (empty, s)
  | c :: cs, s =>
    let (r, s) := library l kind c.path s
    let (rest, s) := ofLoader l kind cs s
    ((contribution kind c r).append rest, s)

/-- Reads candidates on a machine, in order. -/
def ofCandidates (kind : PluginKind) (cs : List Candidate) (m : Machine) : Enumeration × Machine :=
  ofLoader Machine.tableLoader kind cs m

end Enumeration

end AudioHost
