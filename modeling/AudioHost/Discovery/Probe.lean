import AudioHost.Discovery.Supervisor
import AudioHost.Machine.Basic

/-!
Checking whether libraries can be loaded.
-/

namespace AudioHost

/-- A way to check libraries for a symbol. It either gives a verdict on each path, in order, or an
error. -/
structure Probe (σ : Type) where
  tag : String
  check : String → List Path → σ → Except ProbeError (List Verdict) × σ

/-! ## Checking one library -/

/-- What opens libraries. It has a state of its own, which all that is done to libraries may
change. -/
structure Loader (σ : Type) where
  /-- An open library. -/
  Library : Type
  openAt : Path → σ → Except PluginError Library × σ
  /-- Looks a symbol up. -/
  lookup : String → Library → σ → Except PluginError Unit × σ
  close : Library → σ → Except PluginError Unit × σ

namespace Check

/-- The part of an error that says more than which library it is about. -/
def reasonOf : PluginError → String
  | .loadFailure _ reason => reason
  | .unloadFailure _ reason => reason
  | e => e.message

/-- The verdict on a library that was opened, from how looking the symbol up and closing went. -/
def verdictOf (p : Path) (found closed : Except PluginError Unit) : Verdict :=
  match found, closed with
  | .error e, _ => ⟨p, .failedToFindDescriptor, reasonOf e⟩
  | .ok (), .error e => ⟨p, .failedElsewhere, reasonOf e⟩
  | .ok (), .ok () => .success p

end Check

namespace Loader

variable {σ : Type}

/-- Opens a library, looks a symbol up and closes the library again. -/
def check (l : Loader σ) (symbol : String) (p : Path) (s : σ) : Verdict × σ :=
  match l.openAt p s with
  | (.error e, s) => (⟨p, .failedToLoadLibrary, Check.reasonOf e⟩, s)
  | (.ok library, s) =>
    let (found, s) := l.lookup symbol library s
    let (closed, s) := l.close library s
    (Check.verdictOf p found closed, s)

/-- Checks libraries in order. -/
def checkAll (l : Loader σ) (symbol : String) : List Path → σ → List Verdict × σ
  | [], s => ([], s)
  | p :: ps, s =>
    let (v, s) := l.check symbol p s
    let (vs, s) := l.checkAll symbol ps s
    (v :: vs, s)

end Loader

/-- Looks a symbol of an open library up. -/
def OpenLibrary.lookup (o : OpenLibrary) (symbol : String) : Except PluginError Unit :=
  if o.hasSymbol symbol then .ok () else .error (.symbolMissing o.path symbol)

/-- The loader of a machine. -/
def Machine.loader : Loader Machine where
  Library := OpenLibrary
  openAt p m := m.openLibrary p
  lookup symbol o m := (o.lookup symbol, m)
  close o m := m.closeLibrary o.number

/-- Checks libraries on a machine in order. -/
def Check.libraries (symbol : String) (paths : List Path) (m : Machine) : List Verdict × Machine :=
  Machine.loader.checkAll symbol paths m

namespace Probe

/-- Checks libraries with a loader in this very process. -/
def ofLoader {σ : Type} (l : Loader σ) (tag : String) : Probe σ where
  tag
  check symbol paths s :=
    let (vs, s) := l.checkAll symbol paths s
    (.ok vs, s)

/-- Checks libraries on the machine in this very process. -/
def inProcess (tag : String) : Probe Machine := ofLoader Machine.loader tag

/-- Always fails. -/
def failing {σ : Type} (tag : String) (e : ProbeError) : Probe σ where
  tag
  check _ _ s := (.error e, s)

/-- Gives each path the verdict of a function. -/
def pure {σ : Type} (tag : String) (verdict : String → Path → Verdict) : Probe σ where
  tag
  check symbol paths s := (.ok (paths.map (verdict symbol)), s)

end Probe

end AudioHost
