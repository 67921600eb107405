import AudioHost.Discovery.Selection
import AudioHost.Host.Registry
import AudioHost.Rack.Bench
import AudioHost.Taxonomy.Files

/-!
The host: it scans for plugins, keeps what was found, and makes instances.
-/

namespace AudioHost

/-- A host, with the instances that were made through it. -/
structure Host where
  scanner : Scanner
  index : Option SemanticIndex
  bench : Bench
  registries : PluginKind → Registry
  lastReport : Option ScanReport

namespace Host

/-- A host that has scanned nothing, with a rack for each kind. -/
def start (scanner : Scanner) (index : Option SemanticIndex) (m : Machine) : Host where
  scanner
  index
  bench := PluginKind.all.foldl (fun b kind => b.addRack kind (scanner.directories kind)) (.start m)
  registries := fun _ => .empty
  lastReport := none

/-- The machine that the host runs on. -/
def machine (h : Host) : Machine := h.bench.machine

/-- The host on a machine in a new state. -/
def onMachine (h : Host) (m : Machine) : Host := { h with bench := { h.bench with machine := m } }

/-- The host with another registry for a kind. -/
def setRegistry (h : Host) (kind : PluginKind) (r : Registry) : Host :=
  { h with registries := fun k => if k = kind then r else h.registries k }

/-- The host with the scan for a kind in another state. What was found before is kept. -/
def setState (h : Host) (kind : PluginKind) (state : ScanState) : Host :=
  h.setRegistry kind { h.registries kind with state }

/-! ## Scanning -/

/-- Why nothing can be scanned without checkers. -/
def noChecker : String := "no plugin checker available"

/-- What gives plugins of a kind their categories and defaults. -/
def taxonomyFor (h : Host) (kind : PluginKind) : Taxonomy :=
  ((Taxonomy.ofIndex h.index).readFiles h.machine.files kind (h.scanner.directories kind)).2

/-- Adds what checkers said to a report. -/
def addScan (r : ScanReport) (s : CandidateScan) : ScanReport :=
  { r with succeeded := r.succeeded || s.probed, failures := r.failures ++ s.failures }

/-- Adds what tables gave to a report. -/
def addFound (r : ScanReport) (kind : PluginKind) (failures : List ScanFailure) (count : Nat) :
    ScanReport :=
  { r with failures := r.failures ++ failures, found := r.found ++ [(kind, count)] }

/-- Opens the candidates for a kind with a loader and keeps what they contribute. -/
def enumerate (l : TableLoader Machine) (h : Host) (kind : PluginKind)
    (candidates : List Candidate) (r : ScanReport) : ScanReport × Host :=
  let (e, m) := Enumeration.ofLoader l kind candidates h.machine
  let h := h.onMachine m
  let records := e.records.map (h.taxonomyFor kind).apply
  (addFound r kind e.failures e.identifiers.length,
    h.setRegistry kind (.ofScan e.identifiers records))

/-- Scans for one kind. Without checkers what was found before is kept. -/
def scanKind (l : TableLoader Machine) (kind : PluginKind) (h : Host) (r : ScanReport) :
    ScanReport × Host :=
  let h := h.setState kind .scanning
  let (s, m) := h.scanner.scan kind h.machine
  let h := h.onMachine m
  let r := addScan r s
  if h.scanner.probes.isEmpty then (addFound r kind [] 0, h.setState kind (.failed noChecker))
  else h.enumerate l kind s.candidates r

/-- Scans for every kind, opens candidates with a loader, and keeps the report. -/
def scanWith (h : Host) (l : TableLoader Machine) : ScanReport × Host :=
  let (r, h) := PluginKind.all.foldl (fun (r, h) kind => scanKind l kind h r) (.begun, h)
  let r := { r with finished := true }
  (r, { h with lastReport := some r })

/-- Scans for every kind with the loader of the machine. -/
def scan (h : Host) : ScanReport × Host := h.scanWith Machine.tableLoader

/-! ## Looking -/

/-- How far the scan for a kind has come. -/
def state (h : Host) (kind : PluginKind) : ScanState := (h.registries kind).state

/-- The names of the plugins of a kind. -/
def identifiers (h : Host) (kind : PluginKind) : List Identifier := (h.registries kind).identifiers

/-- The records of the plugins of a kind. -/
def descriptors (h : Host) (kind : PluginKind) : List Record := (h.registries kind).descriptors

/-- The record of a plugin. -/
def descriptor? (h : Host) (id : Identifier) : Option Record := (h.registries id.kind).record? id

/-- The category of a plugin; empty if it is not known. -/
def category (h : Host) (id : Identifier) : String :=
  ((h.descriptor? id).map Record.category).getD ""

/-- What the user is told of the failures of the last scan. -/
def failureText? (h : Host) : Option String := h.lastReport.bind ScanReport.failureText?

/-! ## Instances -/

/-- The rack of a kind. -/
def rack? (h : Host) (kind : PluginKind) : Option Rack := h.bench.rackFor? kind

/-- Makes an instance in the rack of its kind and keeps it under a name. -/
def instantiate (h : Host) (id : Identifier) (rate : Single) (name : String) :
    Except PluginError Instance × Host :=
  match h.rack? id.kind with
  | none => (.error (.kindMismatch id.kind id.kind), h)
  | some r =>
    let (i, b) := h.bench.instantiate r id rate name
    (i, { h with bench := b })

end Host

end AudioHost
