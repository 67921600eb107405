import AudioHost.Rack.Instance
import AudioHost.Rack.Locate

/-!
Racks: where instances of one kind of plugin are made.

A rack holds each library that its instances come from open once, and counts the instances that
live. When the last one goes, the library is closed.
-/

namespace AudioHost

/-- An open library that a rack holds. -/
structure Holding where
  path : Path
  /-- The number of the open library. -/
  number : Nat
  exports : Exports
  /-- The instances that live, and one that is being made. -/
  live : Nat

/-- The instances of one kind of plugin and their libraries. -/
structure Rack where
  /-- What tells a rack from all others. -/
  number : Nat
  kind : PluginKind
  searchPath : List Path
  holdings : List Holding
  /-- The instances that live, with the paths of their libraries. -/
  tracked : List (Nat × Path)

namespace Rack

/-- An empty rack. -/
def empty (number : Nat) (kind : PluginKind) (searchPath : List Path) : Rack :=
  ⟨number, kind, searchPath, [], []⟩

/-! ## Looking -/

/-- The number of instances that live. -/
def liveInstances (r : Rack) : Nat := r.tracked.length

/-- The libraries that are held, in order. -/
def libraries (r : Rack) : List Path := (r.holdings.map Holding.path).mergeSort Path.le

/-- What is held for a path. -/
def holding? (r : Rack) (p : Path) : Option Holding := r.holdings.find? fun h => h.path.same p

/-- The rack with what is held for a path changed. -/
def updateHolding (r : Rack) (p : Path) (f : Holding → Holding) : Rack :=
  { r with holdings := r.holdings.map fun h => if h.path.same p then f h else h }

/-- The rack without what is held for a path. -/
def removeHolding (r : Rack) (p : Path) : Rack :=
  { r with holdings := r.holdings.filter fun h => !h.path.same p }

/-- Why a library is not found. -/
def notInSearchPath : String := "library not found in search path"

/-- The file of a library in a file system. -/
def locateIn (r : Rack) (fs : FileSystem) (library : String) : Except PluginError Path :=
  match Locate.file? fs r.searchPath library with
  | some p => .ok p
  | none => .error (.loadFailure ⟨library⟩ notInSearchPath)

/-- The file of a library in a tree. -/
def locate (r : Rack) (files : FileTree) (library : String) : Except PluginError Path :=
  r.locateIn files.system library

/-! ## Holding libraries -/

/-- Counts one more instance of the library at a path, which is opened if it is not held. Whoever
asks for it becomes one more user of the library. -/
def acquire (r : Rack) (p : Path) (m : Machine) : Except PluginError Holding × Rack × Machine :=
  match r.holding? p with
  | some h =>
    (.ok h, r.updateHolding p fun h => { h with live := h.live + 1 }, m.share h.number)
  | none =>
    match m.openLibrary p with
    | (.error e, m) => (.error e, r, m)
    | (.ok o, m) =>
      let h : Holding := ⟨p, o.number, o.exports, 1⟩
      (.ok h, { r with holdings := r.holdings ++ [h] }, m.share o.number)

/-- Counts one instance less of the library at a path, which is closed if that was the last. -/
def letGo (r : Rack) (p : Path) (m : Machine) : Rack × Machine :=
  match r.holding? p with
  | none => (r, m)
  | some h =>
    if 1 < h.live then (r.updateHolding p fun h => { h with live := h.live - 1 }, m)
    else (r.removeHolding p, (m.closeLibrary h.number).2)

/-- Closes the libraries of some holdings. -/
def closeAll (hs : List Holding) (m : Machine) : Machine :=
  hs.foldl (fun m h => (m.closeLibrary h.number).2) m

/-- Closes the libraries without instances, and says how many there were. -/
def unloadUnused (r : Rack) (m : Machine) : Nat × Rack × Machine :=
  let unused := r.holdings.filter fun h => h.live = 0
  let kept := r.holdings.filter fun h => h.live ≠ 0
  (unused.length, { r with holdings := kept }, closeAll unused m)

/-! ## Instances -/

/-- The descriptor of a label in what a library exports. -/
def find (kind : PluginKind) (p : Path) (e : Exports) (label : String) :
    Except PluginError Descriptor :=
  match e.table? kind with
  | none => .error (.symbolMissing p kind.symbol)
  | some table =>
    match table.entries.find? fun d => d.label == label with
    | some d => .ok d
    | none => .error (.descriptorNotFound p label)

/-- Makes an instance from the library that is held for a path. -/
def make (r : Rack) (id : Identifier) (rate : Single) (p : Path) (h : Holding) (m : Machine) :
    Except PluginError Instance × Machine :=
  match find r.kind p h.exports id.label with
  | .error e => (.error e, m)
  | .ok d => Instance.create r.number id rate h.number d m

/-- Makes an instance. If that fails, the library is let go again. -/
def instantiate (r : Rack) (id : Identifier) (rate : Single) (m : Machine) :
    Except PluginError Instance × Rack × Machine :=
  if id.kind ≠ r.kind then (.error (.kindMismatch r.kind id.kind), r, m)
  else match r.locate m.files id.library with
    | .error e => (.error e, r, m)
    | .ok p =>
      match r.acquire p m with
      | (.error e, r, m) => (.error e, r, m)
      | (.ok h, r, m) =>
        match r.make id rate p h m with
        | (.ok i, m) =>
          (.ok i, { r with tracked := r.tracked ++ [(i.number, p)] }, m.unshare h.number)
        | (.error e, m) =>
          let (r, m) := r.letGo p (m.unshare h.number)
          (.error e, r, m)

/-- Learns that an instance has ended. -/
def released (r : Rack) (number : Nat) (m : Machine) : Rack × Machine :=
  match r.tracked.lookup number with
  | none => (r, m)
  | some p =>
    { r with tracked := r.tracked.filter fun e => e.1 != number }.letGo p m

/-- Gives up a rack. Its instances live on, and each is then the last to use its library. -/
def discard (r : Rack) (m : Machine) : Machine :=
  let (_, r, m) := r.unloadUnused m
  r.holdings.foldl (fun m h => m.unshare h.number) m

end Rack

end AudioHost
