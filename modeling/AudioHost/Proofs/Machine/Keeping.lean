import AudioHost.Proofs.Discovery.Loading
import AudioHost.Proofs.Native.Sources
import AudioHost.Proofs.Rack.Custody

/-!
Machines on which things were opened and closed. What lies at a path stays there while the files
do, and where libraries are only checked, what is open stays open too.
-/

namespace AudioHost

open Journal

namespace Machine

variable {m m' m'' : Machine} {p : Path} {n : Nat} {uses : Nat → Nat}

/-! ## What lies at a path -/

/-- The same lies at every path of two machines, and the later one gave out no fewer numbers. -/
structure Keeps (m m' : Machine) : Prop where
  files : m'.files = m.files
  sources : m'.linker.sources = m.linker.sources
  elsewhere : m'.linker.elsewhere = m.linker.elsewhere
  later : m.linker.next ≤ m'.linker.next

theorem keeps_refl (m : Machine) : Keeps m m := ⟨rfl, rfl, rfl, Nat.le_refl _⟩

theorem Keeps.trans (h : Keeps m m') (h' : Keeps m' m'') : Keeps m m'' where
  files := h'.files.trans h.files
  sources := h'.sources.trans h.sources
  elsewhere := h'.elsewhere.trans h.elsewhere
  later := Nat.le_trans h.later h'.later

theorem Keeps.load_eq (h : Keeps m m') (p : Path) : m'.load p = m.load p := by
  rw [load, load, Linker.sourceAt, Linker.sourceAt, h.files, h.sources, h.elsewhere]

theorem keeps_withLinker_openAt (m : Machine) (p : Path) :
    Keeps m (m.withLinker (m.linker.openAt m.files p).2) := by
  unfold Linker.openAt
  dsimp only
  split
  · exact ⟨rfl, rfl, rfl, Nat.le_refl _⟩
  · exact ⟨rfl, rfl, rfl, Nat.le_succ _⟩

theorem keeps_share (m : Machine) (n : Nat) : Keeps m (m.share n) := ⟨rfl, rfl, rfl, Nat.le_refl _⟩

theorem keeps_note (m : Machine) (e : Event) : Keeps m (m.note e) := ⟨rfl, rfl, rfl, Nat.le_refl _⟩

theorem keeps_unshare (m : Machine) (n : Nat) : Keeps m (m.unshare n) := by
  unfold unshare Linker.unshare
  split
  · exact keeps_refl m
  · split <;> exact ⟨rfl, rfl, rfl, Nat.le_refl _⟩

theorem keeps_closeLibrary (m : Machine) (n : Nat) : Keeps m (m.closeLibrary n).2 := by
  unfold closeLibrary Linker.close
  rcases m.linker.find? n with _ | o
  · exact keeps_refl m
  · dsimp only
    split
    · cases o.closeFault <;> exact ⟨rfl, rfl, rfl, Nat.le_refl _⟩
    · exact (keeps_note m (.deferred n o.path)).trans (keeps_unshare _ n)

theorem keeps_noteCalls (m : Machine) (n : Nat) (listedAs : Option String)
    (calls : List NativeCall) : Keeps m (m.noteCalls n listedAs calls) := by
  induction calls generalizing m with
  | nil => exact keeps_refl m
  | cons call calls ih => exact (keeps_note m _).trans (ih _)

/-! ## Checking libraries -/

/-- A machine after libraries were checked and files were changed, and nothing else was done. -/
inductive Probed (m : Machine) : Machine → Prop
  | nothing : Probed m m
  | check {m' : Machine} (h : Probed m m') (symbol : String) (p : Path) :
    Probed m (loader.check symbol p m').2
  | files {m' : Machine} (h : Probed m m') (t : FileTree) : Probed m { m' with files := t }

theorem Probed.trans (h : Probed m m') (h' : Probed m' m'') : Probed m m'' := by
  induction h' with
  | nothing => exact h
  | check _ symbol p ih => exact .check ih symbol p
  | files _ t ih => exact .files ih t

theorem files_check (m : Machine) (symbol : String) (p : Path) :
    (loader.check symbol p m).2.files = m.files := by
  unfold Loader.check loader openLibrary
  dsimp only
  rcases m.linker.openAt m.files p with ⟨e | o, l⟩ <;> rfl

/-- Between two machines libraries were opened and closed again, and nothing else happened that
concerns libraries. -/
structure Spares (m m' : Machine) : Prop where
  sources : m'.linker.sources = m.linker.sources
  elsewhere : m'.linker.elsewhere = m.linker.elsewhere
  later : m.linker.next ≤ m'.linker.next
  opened : m'.linker.opened = m.linker.opened
  next : m'.next = m.next
  adds : Adds (fun _ => True) m.journal m'.journal

theorem spares_refl (m : Machine) : Spares m m :=
  ⟨rfl, rfl, Nat.le_refl _, rfl, rfl, adds_refl _ _⟩

theorem Spares.trans (h : Spares m m') (h' : Spares m' m'') : Spares m m'' where
  sources := h'.sources.trans h.sources
  elsewhere := h'.elsewhere.trans h.elsewhere
  later := Nat.le_trans h.later h'.later
  opened := h'.opened.trans h.opened
  next := h'.next.trans h.next
  adds := h.adds.trans h'.adds

theorem Spares.keeps (h : Spares m m') (hfiles : m'.files = m.files) : Keeps m m' :=
  ⟨hfiles, h.sources, h.elsewhere, h.later⟩

theorem Lends.spares (h : m.Lends m') : Spares m m' := by
  obtain ⟨j, n, hj, rfl⟩ := h
  exact ⟨rfl, rfl, hj.le, rfl, rfl, j, rfl, fun _ _ => trivial⟩

/-- A library that is checked is closed again, and the users of all others stay counted. -/
theorem spares_check (hs : m.linker.Sound uses) (symbol : String) (p : Path) :
    Spares m (loader.check symbol p m).2 ∧ (loader.check symbol p m).2.linker.Sound uses := by
  refine ⟨(check_lends hs.fresh symbol p).2.spares, ?_⟩
  rcases hopen : m.linker.openAt m.files p with ⟨e | o, l⟩
  · simp only [Loader.check, loader, openLibrary, hopen]
    exact hs.openAt_error hopen
  · have hnew : uses m.linker.next = 0 := hs.uses_next (Nat.le_refl _)
    have hopened : l.Sound fun n => uses n + just m.linker.next n :=
      hs.openAt_ok hopen fun _ => rfl
    have hnumber : o.number = m.linker.next := (Linker.openAt_ok hopen).1
    simp only [Loader.check, loader, openLibrary, hopen, closeLibrary, withLinker, hnumber]
    exact (hopened.close hnew fun _ => rfl).1

theorem Probed.spares (h : Probed m m') (hs : m.linker.Sound uses) :
    Spares m m' ∧ m'.linker.Sound uses := by
  induction h with
  | nothing => exact ⟨spares_refl m, hs⟩
  | check _ symbol p ih =>
    obtain ⟨hspares, hsound⟩ := ih
    obtain ⟨hchecked, hafter⟩ := spares_check hsound symbol p
    exact ⟨hspares.trans hchecked, hafter⟩
  | files _ t ih =>
    obtain ⟨hspares, hsound⟩ := ih
    exact ⟨⟨hspares.sources, hspares.elsewhere, hspares.later, hspares.opened, hspares.next,
      hspares.adds⟩, hsound⟩

end Machine

end AudioHost
