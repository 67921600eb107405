import Mathlib.Data.List.Induction
import AudioHost.Proofs.Grid.Writing

/-!
What a grid of columns shows after any run of changes: at each place the values that were written
there last, at the height. How the columns are stored, and what was written elsewhere in between,
is not seen.
-/

namespace AudioHost.Grid

/-! ## Runs of changes -/

/-- A change to the columns of a grid. -/
inductive Act where
  | set (index : Nat) (values : List Single)
  | clear
  | setHeight (height : Nat)
deriving DecidableEq, Repr

/-- The columns after a change. -/
def Columns.apply (s : Columns) : Act → Columns
  | .set index values => s.set index values
  | .clear => s.clear
  | .setHeight height => s.setHeight height

/-- The columns after a run of changes from none. -/
def Columns.run (height : Nat) (acts : List Act) : Columns := acts.foldl apply (empty height)

theorem Columns.run_snoc (height : Nat) (acts : List Act) (a : Act) :
    run height (acts ++ [a]) = (run height acts).apply a := by
  simp [run, List.foldl_append]

/-! ## What the changes themselves say -/

/-- The height after a change. -/
def Act.heightAfter (height : Nat) : Act → Nat
  | .setHeight new => new
  | _ => height

/-- The height after a run: the one that was set last, or else the first. -/
def heightAfter (height : Nat) (acts : List Act) : Nat := acts.foldl Act.heightAfter height

/-- The places that are written since the columns were removed last, with one more change. -/
def Act.writtenAfter (places : List Nat) : Act → List Nat
  | .set index _ => places ++ [index]
  | .clear => []
  | .setHeight _ => places

/-- The places that a run writes after it removes all columns for the last time. -/
def written (acts : List Act) : List Nat := acts.foldl Act.writtenAfter []

/-- One more than the largest of some places, 0 if there are none. -/
def widthOf (places : List Nat) : Nat := places.foldl (fun width i => max width (i + 1)) 0

/-- A change neither writes at a place nor removes the columns nor sets the height. -/
def Act.spares (i : Nat) : Act → Bool
  | .set index _ => index != i
  | .clear => false
  | .setHeight _ => false

/-- The most recent write at a place wrote some values, and since then the columns were not removed
and the height was not set. -/
def LastWritten (acts : List Act) (i : Nat) (values : List Single) : Prop :=
  ∃ before after, acts = before ++ .set i values :: after ∧ ∀ a ∈ after, a.spares i = true

theorem heightAfter_snoc (height : Nat) (acts : List Act) (a : Act) :
    heightAfter height (acts ++ [a]) = a.heightAfter (heightAfter height acts) := by
  simp [heightAfter, List.foldl_append]

theorem written_snoc (acts : List Act) (a : Act) :
    written (acts ++ [a]) = a.writtenAfter (written acts) := by
  simp [written, List.foldl_append]

theorem widthOf_snoc (places : List Nat) (i : Nat) :
    widthOf (places ++ [i]) = max (widthOf places) (i + 1) := by
  simp [widthOf, List.foldl_append]

/-- The last change either is the most recent write at a place, or it spares the place. -/
theorem lastWritten_snoc {acts : List Act} {a : Act} {i : Nat} {values : List Single}
    (h : LastWritten (acts ++ [a]) i values) :
    a = .set i values ∨ (a.spares i = true ∧ LastWritten acts i values) := by
  obtain ⟨before, after, heq, hspares⟩ := h
  -- Nothing follows the write, or the last change is the last of what follows it.
  rcases List.eq_nil_or_concat after with rfl | ⟨rest, b, rfl⟩
  · have := List.append_inj_right' heq rfl
    exact Or.inl (List.singleton_inj.mp this)
  · rw [List.concat_eq_append, ← List.cons_append, ← List.append_assoc] at heq
    have hb : a = b := List.singleton_inj.mp (List.append_inj_right' heq rfl)
    have hacts := List.append_inj_left' heq rfl
    subst hb
    rw [List.concat_eq_append] at hspares
    exact Or.inr ⟨hspares a (by simp), before, rest, hacts,
      fun b hb => hspares b (List.mem_append_left _ hb)⟩

/-! ## The invariant of a run -/

/-- Columns show what a run of changes says. -/
structure Shows (height : Nat) (acts : List Act) (s : Columns) : Prop where
  sound : s.Sound
  height_eq : s.height = heightAfter height acts
  width_eq : s.width = widthOf (written acts)
  last : ∀ i values, LastWritten acts i values →
    i < s.width ∧ s.expand i = resize s.height values
  gaps : ∀ i < s.width, i ∉ written acts → s.columns[i]? = some .gap

theorem shows_empty (height : Nat) : Shows height [] (.empty height) where
  sound := Columns.sound_empty height
  height_eq := rfl
  width_eq := rfl
  last := by
    rintro i values ⟨before, after, heq, _⟩
    simp at heq
  gaps := by
    intro i hi
    simp [Columns.empty, Columns.width] at hi

theorem shows_set {height : Nat} {acts : List Act} {s : Columns} (h : Shows height acts s)
    (index : Nat) (values : List Single) :
    Shows height (acts ++ [.set index values]) (s.set index values) where
  sound := Columns.sound_set h.sound index values
  height_eq := by
    rw [heightAfter_snoc, Columns.height_set, h.height_eq]
    rfl
  width_eq := by
    rw [written_snoc, Act.writtenAfter, widthOf_snoc, Columns.width_set, h.width_eq]
  last := by
    intro i vs hlast
    rw [Columns.height_set]
    rcases lastWritten_snoc hlast with heq | ⟨hspares, hold⟩
    · cases heq
      exact ⟨by rw [Columns.width_set]; omega, Columns.expand_set_self h.sound index values⟩
    · obtain ⟨hi, hexpand⟩ := h.last i vs hold
      have hne : i ≠ index := fun he => by simp [Act.spares, he] at hspares
      refine ⟨by rw [Columns.width_set]; omega, ?_⟩
      rw [Columns.expand_set_of_ne h.sound hi hne (by rw [hexpand, length_resize]), hexpand]
  gaps := by
    intro i hi hnot
    simp only [written_snoc, Act.writtenAfter, List.mem_append, List.mem_singleton,
      not_or] at hnot
    exact Columns.gap_set_of_ne hnot.2 values hi fun hlt => h.gaps i hlt hnot.1

theorem shows_clear {height : Nat} {acts : List Act} {s : Columns} (h : Shows height acts s) :
    Shows height (acts ++ [.clear]) s.clear where
  sound := Columns.sound_empty s.height
  height_eq := by
    rw [heightAfter_snoc]
    exact h.height_eq
  width_eq := by
    rw [written_snoc]
    rfl
  last := by
    intro i values hlast
    rcases lastWritten_snoc hlast with heq | ⟨hspares, _⟩
    · cases heq
    · cases hspares
  gaps := by
    intro i hi
    simp [Columns.clear, Columns.width] at hi

theorem shows_setHeight {old : Nat} {acts : List Act} {s : Columns} (h : Shows old acts s)
    (height : Nat) : Shows old (acts ++ [.setHeight height]) (s.setHeight height) where
  sound := Columns.sound_setHeight h.sound height
  height_eq := by
    rw [heightAfter_snoc]
    rfl
  width_eq := by
    rw [written_snoc]
    exact h.width_eq
  last := by
    intro i values hlast
    rcases lastWritten_snoc hlast with heq | ⟨hspares, _⟩
    · cases heq
    · cases hspares
  gaps := by
    intro i hi hnot
    rw [written_snoc] at hnot
    exact h.gaps i hi hnot

theorem shows_run (height : Nat) (acts : List Act) : Shows height acts (.run height acts) := by
  -- The last change is taken off, since the invariant is about the run as a whole.
  induction acts using List.reverseRecOn with
  | nil => exact shows_empty height
  | append_singleton acts a ih =>
    rw [Columns.run_snoc]
    cases a with
    | set index values => exact shows_set ih index values
    | clear => exact shows_clear ih
    | setHeight new => exact shows_setHeight ih new

/-! ## The laws -/

/-- After any run a column that was last written after the height was set reads as the values that
were written, cut or padded to the height. A gap reads as zeros. There is no column past the largest
place that was written since the columns were removed. -/
theorem a_column_reads_as_it_was_last_written (height : Nat) (acts : List Act) :
    (∀ i values, LastWritten acts i values →
      (Columns.run height acts).get i = some (resize (heightAfter height acts) values)) ∧
    (∀ i < widthOf (written acts), i ∉ written acts →
      (Columns.run height acts).get i =
        some (List.replicate (heightAfter height acts) .zero)) ∧
    (∀ i, (Columns.run height acts).get i = none ↔ widthOf (written acts) ≤ i) ∧
    (Columns.run height acts).width = widthOf (written acts) := by
  have h := shows_run height acts
  rw [← h.width_eq, ← h.height_eq]
  refine ⟨?_, ?_, ?_, rfl⟩
  · intro i values hlast
    obtain ⟨hi, hexpand⟩ := h.last i values hlast
    simp [Columns.get, hi, hexpand]
  · intro i hi hnot
    have hexpand := Columns.expand_whole (h.gaps i hi hnot)
    simp [Columns.get, hi, hexpand]
  · intro i
    simp [Columns.get]

/-- A column is written that shares a leading run with the first one, the first one is written anew
with a negative zero and a NaN, and a place is skipped. -/
theorem a_shared_run_outlives_its_reference :
    let one : Single := ⟨0x3f800000⟩
    let two : Single := ⟨0x40000000⟩
    let fresh : List Single := [⟨0x80000000⟩, ⟨0x7fc00001⟩]
    let acts : List Act := [.set 0 [one, one, one, one], .set 1 [one, one, one, two],
      .set 3 [two], .set 0 fresh]
    LastWritten acts 1 [one, one, one, two] ∧ LastWritten acts 0 fresh ∧
      (2 < widthOf (written acts) ∧ 2 ∉ written acts) ∧
      (Columns.run 4 (acts.take 2)).truncation 1 = some (.dropped .leading 1) ∧
      (Columns.run 4 acts).get 1 = some [one, one, one, two] ∧
      (Columns.run 4 acts).get 0 = some (fresh ++ [.zero, .zero]) ∧
      (Columns.run 4 acts).get 2 = some [.zero, .zero, .zero, .zero] ∧
      (Columns.run 4 acts).get 4 = none := by
  intro one two fresh acts
  obtain ⟨hlast, hgaps, hnone, _⟩ := a_column_reads_as_it_was_last_written 4 acts
  have h1 : LastWritten acts 1 [one, one, one, two] :=
    ⟨[.set 0 [one, one, one, one]], [.set 3 [two], .set 0 fresh], rfl, by decide⟩
  have h0 : LastWritten acts 0 fresh :=
    ⟨[.set 0 [one, one, one, one], .set 1 [one, one, one, two], .set 3 [two]], [], rfl, by decide⟩
  exact ⟨h1, h0, by decide, by cbv, hlast 1 _ h1, hlast 0 _ h0,
    hgaps 2 (by decide) (by decide), (hnone 4).mpr (by decide)⟩

end AudioHost.Grid
