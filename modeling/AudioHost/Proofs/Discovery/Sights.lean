import AudioHost.Discovery.Enumeration
import AudioHost.Proofs.Discovery.Loading

/-!
What a visit to a library shows. Checking a library and reading its table both visit it, and what
they make of it is decided by what the visit shows. A steady loader shows the same whenever it is
asked, and the loader of a machine is steady.
-/

namespace AudioHost

variable {σ : Type}

/-! ## Visits -/

/-- What a visit to a library shows: why it cannot be opened, or what is behind its symbol and how
closing it goes. -/
inductive Sight where
  | unopened (e : PluginError)
  | opened (found : Except PluginError (Table Descriptor)) (closed : Except PluginError Unit)

namespace Sight

/-- The verdict on a library of which this is seen. -/
def verdict (p : Path) : Sight → Verdict
  | .unopened e => ⟨p, .failedToLoadLibrary, Check.reasonOf e⟩
  | .opened found closed => Check.verdictOf p (found.map fun _ => ()) closed

/-- The records of a library of which this is seen. -/
def records (p : Path) : Sight → Except PluginError (List Record)
  | .unopened e => .error e
  | .opened (.error e) _ => .error e
  | .opened (.ok table) _ => Enumeration.recordsFrom p [] 0 table.entries

end Sight

namespace TableLoader

variable {l : TableLoader σ} {usual : σ → Prop} {s t : σ}

/-- Opens a library, looks up what is behind the symbol of a kind and closes the library again. -/
def visit (l : TableLoader σ) (kind : PluginKind) (p : Path) (s : σ) : Sight × σ :=
  match l.openAt p s with
  | (.error e, s) => (.unopened e, s)
  | (.ok library, s) =>
    let (found, s) := l.lookup kind.symbol library s
    let (closed, s) := l.close library s
    (.opened (found.map fun _ => l.table kind library) closed, s)

theorem check_eq_visit (l : TableLoader σ) (kind : PluginKind) (p : Path) (s : σ) :
    l.check kind.symbol p s = ((l.visit kind p s).1.verdict p, (l.visit kind p s).2) := by
  rcases hopen : l.openAt p s with ⟨e | o, s'⟩
  · simp only [Loader.check, visit, hopen, Sight.verdict]
  · rcases hlookup : l.lookup kind.symbol o s' with ⟨e | ⟨⟩, s''⟩ <;>
      simp only [Loader.check, visit, hopen, hlookup, Sight.verdict, Except.map]

theorem library_eq_visit (l : TableLoader σ) (kind : PluginKind) (p : Path) (s : σ) :
    Enumeration.library l kind p s = ((l.visit kind p s).1.records p, (l.visit kind p s).2) := by
  rcases hopen : l.openAt p s with ⟨e | o, s'⟩
  · simp only [Enumeration.library, visit, hopen, Sight.records]
  · rcases hlookup : l.lookup kind.symbol o s' with ⟨e | ⟨⟩, s''⟩ <;>
      simp only [Enumeration.library, Enumeration.recordsOf, visit, hopen, hlookup, Sight.records,
        Except.map]

/-! ## Steady loaders -/

/-- In usual states what a visit shows depends on the path alone, and a visit leads from one usual
state to another. -/
structure Steady (l : TableLoader σ) (usual : σ → Prop) : Prop where
  keeps : ∀ kind p s, usual s → usual (l.visit kind p s).2
  same : ∀ kind p s t, usual s → usual t → (l.visit kind p s).1 = (l.visit kind p t).1

theorem Steady.keeps_check (h : l.Steady usual) (kind : PluginKind) (p : Path) (s : σ)
    (hs : usual s) : usual (l.check kind.symbol p s).2 := by
  rw [check_eq_visit]
  exact h.keeps kind p s hs

theorem Steady.checks (h : l.Steady usual) (kind : PluginKind) :
    l.toLoader.Steady kind.symbol usual where
  keeps := h.keeps_check kind
  same p s t hs ht := by
    rw [Loader.verdict, Loader.verdict, check_eq_visit, check_eq_visit, h.same kind p s t hs ht]

theorem Steady.reads (h : l.Steady usual) (kind : PluginKind) (p : Path) (hs : usual s)
    (ht : usual t) : (Enumeration.library l kind p s).1 = (Enumeration.library l kind p t).1 := by
  rw [library_eq_visit, library_eq_visit, h.same kind p s t hs ht]

end TableLoader

/-! ## The machine -/

namespace Machine

variable {files : FileTree} {sources : List (Path × LibrarySource)} {elsewhere : LibrarySource}

/-- What a visit to the library from a source shows. -/
def sightOn (t : FileTree) (source : LibrarySource) (kind : PluginKind) (p : Path) : Sight :=
  match Linker.load t p source with
  | .error reason => .unopened (.loadFailure p reason)
  | .ok (exports, closeFault) =>
    let o : OpenLibrary := ⟨0, p, exports, closeFault, Linker.isFile source, 1⟩
    .opened ((o.lookup kind.symbol).map fun _ => tableLoader.table kind o)
      (Linker.closing p closeFault)

theorem visit_tableLoader {m : Machine} (hm : Finds files sources elsewhere m) (kind : PluginKind)
    (p : Path) : (tableLoader.visit kind p m).1 = sightOn files (m.linker.sourceAt p) kind p := by
  obtain ⟨rfl, _, _, hfresh⟩ := hm
  simp only [TableLoader.visit, tableLoader, loader, openLibrary, Linker.openAt, sightOn]
  rcases Linker.load m.files p (m.linker.sourceAt p) with reason | ⟨exports, closeFault⟩
  · rfl
  · simp only [closeLibrary, withLinker, Linker.note, Linker.close_opened hfresh]
    rfl

/-- The loader of a machine is steady for tables, too. -/
theorem steady_tableLoader (files : FileTree) (sources : List (Path × LibrarySource))
    (elsewhere : LibrarySource) : tableLoader.Steady (Finds files sources elsewhere) where
  keeps kind p m hm := by
    have hchecked : Finds files sources elsewhere (tableLoader.check kind.symbol p m).2 :=
      (check_loader hm kind.symbol p).2
    rwa [TableLoader.check_eq_visit] at hchecked
  same kind p m n hm hn := by
    rw [visit_tableLoader hm, visit_tableLoader hn, hm.sourceAt_eq hn]

end Machine

end AudioHost
