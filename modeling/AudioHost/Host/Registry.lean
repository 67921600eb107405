import AudioHost.Discovery.Enumeration

/-!
What is known of the plugins of one kind.
-/

namespace AudioHost

/-- How far the scan for a kind has come. -/
inductive ScanState where
  | unscanned
  | scanning
  | scanned (count : Nat)
  | failed (reason : String)
deriving DecidableEq, Repr

/-- What is known of the plugins of one kind. -/
structure Registry where
  state : ScanState
  /-- The names of the plugins in the order of their discovery. -/
  identifiers : List Identifier
  /-- What is known of them. Of several records under one name the last one counts. -/
  records : List Record
deriving DecidableEq, Repr

namespace Registry

/-- Nothing is known. -/
def empty : Registry := ⟨.unscanned, [], []⟩

/-- The registry after plugins were found. -/
def ofScan (identifiers : List Identifier) (records : List Record) : Registry :=
  ⟨.scanned identifiers.length, identifiers, records⟩

/-- The record of a plugin. -/
def record? (r : Registry) (id : Identifier) : Option Record :=
  r.records.reverse.find? fun e => e.identifier == id

/-- The records of all plugins, in the order of their names. -/
def descriptors (r : Registry) : List Record := r.identifiers.filterMap r.record?

end Registry

end AudioHost
