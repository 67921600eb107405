import AudioHost.Files.Tree
import AudioHost.Native.Journal
import AudioHost.Native.Specimens
import AudioHost.Native.SystemLibrary
import AudioHost.Plugin.Error

/-!
Opening and closing libraries.

Every opening gives a library of its own, told apart by a number. A library may have several
users. The last one may close it; if the last user merely goes away, it is dropped.
-/

namespace AudioHost

/-- Where the library at a path comes from. -/
inductive LibrarySource where
  | specimen (s : Specimen)
  /-- A library that exports tables, and why closing it fails if it does. -/
  | tables (e : Exports) (closeFault : Option String)
  /-- The file at the path. -/
  | file
  /-- No library, for a reason. -/
  | none (reason : String)

/-- An open library. -/
structure OpenLibrary where
  number : Nat
  path : Path
  exports : Exports
  closeFault : Option String
  /-- The system's own linker opened it. -/
  bySystem : Bool
  /-- The number of users. -/
  users : Nat

/-- The part of the system that opens libraries. -/
structure Linker where
  /-- What was put at paths, latest first. -/
  sources : List (Path × LibrarySource)
  /-- What is at any other path. -/
  elsewhere : LibrarySource
  opened : List OpenLibrary
  /-- The number for the next opening. -/
  next : Nat
  journal : Journal

/-- A text as the system takes it: one zero character at its end does not count. -/
def systemText (cs : List Char) : List Char := Text.dropLastIf (Char.ofNat 0) cs

/-- A library has a symbol. The system's linker also finds the symbols of the libraries that every
program needs. -/
def OpenLibrary.hasSymbol (o : OpenLibrary) (symbol : String) : Bool :=
  if o.bySystem then
    let name := String.ofList (systemText symbol.toList)
    o.exports.hasSymbol name || SystemLibrary.symbols.contains name
  else o.exports.hasSymbol symbol

namespace Linker

/-- A linker that has opened nothing. -/
def start (sources : List (Path × LibrarySource)) (elsewhere : LibrarySource) : Linker :=
  ⟨sources, elsewhere, [], 0, []⟩

/-- Puts a library at a path. Libraries that are open stay as they are. -/
def register (l : Linker) (p : Path) (s : LibrarySource) : Linker :=
  { l with sources := (p, s) :: l.sources }

/-- Where the library at a path comes from. -/
def sourceAt (l : Linker) (p : Path) : LibrarySource :=
  ((l.sources.find? fun e => e.1.same p).map (·.2)).getD l.elsewhere

/-- Adds an event to the journal. -/
def note (l : Linker) (e : Event) : Linker := { l with journal := l.journal ++ [e] }

/-! ## Opening -/

/-- Why a specimen that is none cannot be loaded. -/
def noLibrary : String := "not a loadable library"

/-- Why a file cannot be loaded. -/
def notLoaded : String := "dlopen failed"

/-- Why a path with a zero character inside cannot be loaded. -/
def zeroInside : String := "interior zero element in parameter"

/-- What the library at a path exports, if the system's linker loads it. The empty path stands for
the running program. A path without a slash names a library of the system, never a file here. -/
def fileExports? (t : FileTree) (cs : List Char) : Option Exports :=
  if '/' ∈ cs then
    match t.content? ⟨String.ofList cs⟩ with
    | some (.library s) => s.exports?
    | _ => none
  else if cs.isEmpty || SystemLibrary.names.contains (String.ofList cs) then some .none
  else none

/-- What the library from a source exports and why closing it fails, or why it cannot be loaded. -/
def load (t : FileTree) (p : Path) : LibrarySource → Except String (Exports × Option String)
  | .specimen s => match s.exports? with
    | some e => .ok (e, none)
    | none => .error noLibrary
  | .tables e closeFault => .ok (e, closeFault)
  | .file =>
    let cs := systemText p.chars
    if cs.contains (Char.ofNat 0) then .error zeroInside
    else match fileExports? t cs with
      | some e => .ok (e, none)
      | none => .error notLoaded
  | .none reason => .error reason

/-- The source is a specimen. -/
def isSpecimen : LibrarySource → Bool
  | .specimen _ => true
  | _ => false

/-- The source is a file. -/
def isFile : LibrarySource → Bool
  | .file => true
  | _ => false

/-- Opens the library at a path for one user. -/
def openAt (l : Linker) (t : FileTree) (p : Path) : Except PluginError OpenLibrary × Linker :=
  let source := l.sourceAt p
  match load t p source with
  | .error reason => (.error (.loadFailure p reason), l.note (.openFailed p))
  | .ok (exports, closeFault) =>
    let library : OpenLibrary := ⟨l.next, p, exports, closeFault, isFile source, 1⟩
    let opened := { l with opened := l.opened ++ [library], next := l.next + 1 }
    (.ok library, opened.note (.opened l.next p (isSpecimen source)))

/-! ## Users -/

/-- The open library of a number. -/
def find? (l : Linker) (number : Nat) : Option OpenLibrary :=
  l.opened.find? fun o => o.number == number

/-- The linker with an open library changed. -/
def update (l : Linker) (number : Nat) (f : OpenLibrary → OpenLibrary) : Linker :=
  { l with opened := l.opened.map fun o => if o.number = number then f o else o }

/-- The linker without an open library. -/
def forget (l : Linker) (number : Nat) : Linker :=
  { l with opened := l.opened.filter fun o => o.number != number }

/-- Adds a user of an open library. -/
def share (l : Linker) (number : Nat) : Linker :=
  l.update number fun o => { o with users := o.users + 1 }

/-- Takes a user from an open library. Without any it is dropped. -/
def unshare (l : Linker) (number : Nat) : Linker :=
  match l.find? number with
  | none => l
  | some o =>
    if o.users ≤ 1 then (l.forget number).note (.dropped number o.path)
    else l.update number fun o => { o with users := o.users - 1 }

/-- Closes an open library on behalf of its only user. While there are others, the user is taken and
the library is left to them. -/
def close (l : Linker) (number : Nat) : Except PluginError Unit × Linker :=
  match l.find? number with
  | none => (.ok (), l)
  | some o =>
    if o.users ≤ 1 then
      let closed := (l.forget number).note (.closed number o.path)
      match o.closeFault with
      | some reason => (.error (.unloadFailure o.path reason), closed)
      | none => (.ok (), closed)
    else (.ok (), (l.note (.deferred number o.path)).unshare number)

/-! ## Counting specimens -/

/-- The numbers of the openings of specimens at a path. -/
def specimenOpenings (j : Journal) (p : Path) : List Nat :=
  j.filterMap fun e => match e with
    | .opened n q true => if q.same p then some n else none
    | _ => none

/-- How often a specimen at a path was opened, and how often it was closed. -/
def specimenCounts (l : Linker) (p : Path) : Nat × Nat :=
  let numbers := specimenOpenings l.journal p
  let closes := l.journal.countP fun e => match e with
    | .closed n _ => numbers.contains n
    | _ => false
  (numbers.length, closes)

end Linker

end AudioHost
