import AudioHost.Discovery.Probe
import AudioHost.Proofs.Discovery.Lines
import AudioHost.Proofs.Native.Opening

/-!
What checking libraries with a loader gives. The loader of a machine is steady: what it finds is
decided by what lies at a path and by the files, and checking leaves nothing open, so it changes
neither.
-/

namespace AudioHost

/-! ## Verdicts of a loader -/

namespace Check

/-- The message of a success is empty, and no check leaves a library without an answer, so all of
a verdict is received but the line ends of its message. -/
theorem received_verdictOf (p : Path) (found closed : Except PluginError Unit) :
    (verdictOf p found closed).received = (verdictOf p found closed).onOneLine := by
  rcases found with e | _
  · rfl
  · rcases closed with e | _ <;> rfl

theorem path_verdictOf (p : Path) (found closed : Except PluginError Unit) :
    (verdictOf p found closed).path = p := by
  rcases found with e | _
  · rfl
  · rcases closed with e | _ <;> rfl

end Check

namespace Loader

variable {σ : Type}

/-- The verdict of a loader on a path, in a state. -/
def verdict (l : Loader σ) (symbol : String) (s : σ) (p : Path) : Verdict := (l.check symbol p s).1

theorem path_verdict (l : Loader σ) (symbol : String) (s : σ) (p : Path) :
    (l.verdict symbol s p).path = p := by
  unfold verdict check
  split
  · rfl
  · exact Check.path_verdictOf ..

theorem received_verdict (l : Loader σ) (symbol : String) (s : σ) (p : Path) :
    (l.verdict symbol s p).received = (l.verdict symbol s p).onOneLine := by
  unfold verdict check
  split
  · rfl
  · exact Check.received_verdictOf ..

/-- The answer for a path is read as its verdict, with the message on one line. -/
theorem ofLine?_verdict (l : Loader σ) (symbol : String) (s : σ) {p : Path} (hp : p.text ≠ "") :
    Verdict.ofLine? (l.verdict symbol s p).line = some (l.verdict symbol s p).onOneLine := by
  rw [← received_verdict]
  exact Verdict.ofLine?_line (by rwa [path_verdict])

/-- In usual states the verdicts of a loader depend on the paths alone, and checking leads from one
usual state to another. -/
structure Steady (l : Loader σ) (symbol : String) (usual : σ → Prop) : Prop where
  keeps : ∀ p s, usual s → usual (l.check symbol p s).2
  same : ∀ p s t, usual s → usual t → l.verdict symbol s p = l.verdict symbol t p

/-- Checking paths in a row gives each the verdict that it gets alone. -/
theorem Steady.checkAll_eq {l : Loader σ} {symbol : String} {usual : σ → Prop}
    (h : l.Steady symbol usual) {s : σ} (hs : usual s) (ps : List Path) :
    (l.checkAll symbol ps s).1 = ps.map (l.verdict symbol s) := by
  -- The state goes on from path to path, while the verdicts are those of the first state.
  suffices hall : ∀ t, usual t → (l.checkAll symbol ps t).1 = ps.map (l.verdict symbol s) from
    hall s hs
  induction ps with
  | nil => exact fun _ _ => rfl
  | cons p ps ih =>
    intro t ht
    rw [checkAll, List.map_cons, h.same p s t hs ht]
    exact congrArg _ (ih _ (h.keeps p t ht))

end Loader

/-! ## Sources -/

namespace Linker

/-- What the library from a source is found to be when it is checked. -/
def verdictOn (t : FileTree) (source : LibrarySource) (symbol : String) (p : Path) : Verdict :=
  match load t p source with
  | .error reason => ⟨p, .failedToLoadLibrary, reason⟩
  | .ok (exports, closeFault) =>
    Check.verdictOf p (OpenLibrary.lookup ⟨0, p, exports, closeFault, isFile source, 1⟩ symbol)
      (closing p closeFault)

end Linker

/-! ## The machine -/

/-- A machine has some files, and its linker finds some libraries. -/
structure Machine.Finds (files : FileTree) (sources : List (Path × LibrarySource))
    (elsewhere : LibrarySource) (m : Machine) : Prop where
  files_eq : m.files = files
  sources_eq : m.linker.sources = sources
  elsewhere_eq : m.linker.elsewhere = elsewhere
  fresh : m.linker.Fresh

namespace Machine

theorem finds_start (files : FileTree) (sources : List (Path × LibrarySource))
    (elsewhere : LibrarySource) :
    Finds files sources elsewhere (.start files (.start sources elsewhere)) where
  files_eq := rfl
  sources_eq := rfl
  elsewhere_eq := rfl
  fresh := by intro o ho; cases ho

/-- The machine with a journal that goes on and another number for the next opening. All that was
open is open still, and nothing else is different. -/
def after (m : Machine) (j : Journal) (n : Nat) : Machine :=
  m.withLinker { m.linker with next := n, journal := m.linker.journal ++ j }

/-- Between two machines libraries were borrowed, and nothing else happened. -/
def Lends (m m' : Machine) : Prop :=
  ∃ j n, Journal.Borrows m.linker.next j n ∧ m' = m.after j n

theorem lends_refl (m : Machine) : m.Lends m := by
  refine ⟨[], m.linker.next, .nothing, ?_⟩
  simp only [after, withLinker, List.append_nil]

theorem Lends.trans {m m' m'' : Machine} (h : m.Lends m') (h' : m'.Lends m'') : m.Lends m'' := by
  obtain ⟨j, n, hj, rfl⟩ := h
  obtain ⟨j', n', hj', rfl⟩ := h'
  refine ⟨j ++ j', n', hj.trans hj', ?_⟩
  simp only [after, withLinker, List.append_assoc]

theorem Lends.fresh {m m' : Machine} (h : m.Lends m') (hfresh : m.linker.Fresh) :
    m'.linker.Fresh := by
  obtain ⟨j, n, hj, rfl⟩ := h
  exact fun o ho => Nat.lt_of_lt_of_le (hfresh o ho) hj.le

/-- What checking a library finds, and that it only borrows the library. -/
theorem check_lends {m : Machine} (hfresh : m.linker.Fresh) (symbol : String) (p : Path) :
    (loader.check symbol p m).1 = Linker.verdictOn m.files (m.linker.sourceAt p) symbol p ∧
      m.Lends (loader.check symbol p m).2 := by
  simp only [Loader.check, loader, openLibrary, Linker.openAt, Linker.verdictOn]
  rcases Linker.load m.files p (m.linker.sourceAt p) with reason | ⟨exports, closeFault⟩
  · exact ⟨rfl, _, _, .openFailed .nothing p, rfl⟩
  · simp only [closeLibrary, withLinker, Linker.note, Linker.close_opened hfresh]
    refine ⟨rfl, _, _, .borrowed .nothing p (Linker.isSpecimen (m.linker.sourceAt p)), ?_⟩
    simp only [after, withLinker, List.append_assoc, List.nil_append, List.cons_append]

/-- What checking a library finds, and that it leaves the machine as it was. -/
theorem check_loader {files : FileTree} {sources : List (Path × LibrarySource)}
    {elsewhere : LibrarySource} {m : Machine} (h : Finds files sources elsewhere m)
    (symbol : String) (p : Path) :
    (loader.check symbol p m).1 = Linker.verdictOn files (m.linker.sourceAt p) symbol p ∧
      Finds files sources elsewhere (loader.check symbol p m).2 := by
  obtain ⟨rfl, hsources, helsewhere, hfresh⟩ := h
  obtain ⟨hverdict, hlends⟩ := check_lends hfresh symbol p
  have hlater := hlends.fresh hfresh
  obtain ⟨j, n, _, hafter⟩ := hlends
  refine ⟨hverdict, ?_⟩
  rw [hafter] at hlater ⊢
  exact ⟨rfl, hsources, helsewhere, hlater⟩

theorem Finds.sourceAt_eq {files : FileTree} {sources : List (Path × LibrarySource)}
    {elsewhere : LibrarySource} {m n : Machine} (hm : Finds files sources elsewhere m)
    (hn : Finds files sources elsewhere n) (p : Path) :
    m.linker.sourceAt p = n.linker.sourceAt p := by
  rw [Linker.sourceAt, Linker.sourceAt, hm.sources_eq, hm.elsewhere_eq, hn.sources_eq,
    hn.elsewhere_eq]

/-- The loader of a machine is steady. -/
theorem steady_loader (symbol : String) (files : FileTree)
    (sources : List (Path × LibrarySource)) (elsewhere : LibrarySource) :
    loader.Steady symbol (Finds files sources elsewhere) where
  keeps p m h := (check_loader h symbol p).2
  same p m n hm hn := by
    rw [Loader.verdict, Loader.verdict, (check_loader hm symbol p).1, (check_loader hn symbol p).1,
      hm.sourceAt_eq hn]

end Machine

end AudioHost
