import Mathlib.Data.List.Induction
import AudioHost.Proofs.Grid.History

/-!
What columns hold after a run of writes at one height: the values that were written there last, as
they are in a column that is kept whole, and as it reads in any other one.
-/

namespace AudioHost.Grid

namespace Columns

variable {s : Columns} {f : Nat → List Single}

/-! ## What the columns hold -/

/-- The columns hold some values. One that is kept whole keeps its values as they are, and any other
one reads as its values. -/
structure Holds (s : Columns) (f : Nat → List Single) : Prop where
  sound : s.Sound
  column : ∀ i c, s.columns[i]? = some c →
    c = .whole (f i) ∨ c.truncation ≠ .whole ∧ (f i).length = s.height ∧ s.expand i = f i
  beyond : ∀ i, s.width ≤ i → f i = []

theorem Holds.expand (h : s.Holds f) {i : Nat} (hi : i < s.width) :
    s.expand i = resize s.height (f i) := by
  have hc := List.getElem?_eq_getElem (l := s.columns) hi
  rcases h.column i _ hc with hwhole | ⟨_, hlength, hexpand⟩
  · rw [hwhole] at hc
    exact expand_whole hc
  · rw [hexpand, resize_of_length hlength]

theorem Holds.length_expand (h : s.Holds f) {i : Nat} (hi : i < s.width) :
    (s.expand i).length = s.height := by
  rw [h.expand hi, length_resize]

theorem lt_width {i : Nat} {c : Column} (hc : s.columns[i]? = some c) : i < s.width :=
  (List.getElem?_eq_some_iff.mp hc).1

theorem holds_detachOne (h : s.Holds f) (index later : Nat) :
    (s.detachOne index later).Holds f where
  sound := sound_detachOne h.sound index later
  column := by
    intro i c hc
    rw [getElem?_detachOne, Option.map_eq_some_iff] at hc
    obtain ⟨old, hold, rfl⟩ := hc
    have hexpand := expand_detachOne h.sound index later (h.length_expand (lt_width hold))
    rw [height_detachOne, hexpand]
    split
    · next hrefers =>
      -- A column that refers to another one is not kept whole, so it read as its values before.
      rcases h.column i old hold with rfl | ⟨_, _, hreads⟩
      · cases hrefers.2
      · exact Or.inl (congrArg Column.whole hreads)
    · exact h.column i old hold
  beyond := by
    rw [width_detachOne]
    exact h.beyond

theorem holds_detach (h : s.Holds f) (index : Nat) : (s.detach index).Holds f := by
  unfold detach
  generalize List.range' (index + 1) maxBack = places
  induction places generalizing s with
  | nil => exact h
  | cons later places ih => exact ih (holds_detachOne h index later)

theorem holds_grow (h : s.Holds f) (index : Nat) : (s.grow index).Holds f where
  sound := sound_grow h.sound index
  column := by
    intro i c hc
    by_cases hi : i < s.width
    · rw [expand_grow h.sound index hi, height_grow]
      rw [getElem?_grow_of_lt index hi] at hc
      exact h.column i c hc
    · have hgap := getElem?_grow_of_ge (Nat.not_lt.mp hi) hc
      rw [h.beyond i (Nat.not_lt.mp hi)]
      exact Or.inl hgap
  beyond := by
    intro i hi
    apply h.beyond
    simp only [grow, width, List.length_append] at hi ⊢
    omega

theorem holds_ready (h : s.Holds f) (index : Nat) : (s.ready index).Holds f := by
  unfold ready
  split
  · exact holds_detach h index
  · exact holds_grow h index

/-- A write changes what is held at its place. -/
theorem holds_set (h : s.Holds f) (index : Nat) (values : List Single) :
    (s.set index values).Holds (Function.update f index values) where
  sound := sound_set h.sound index values
  column := by
    intro i c hc
    by_cases hi : i = index
    · subst hi
      rw [Function.update_self, height_set, expand_set_self h.sound]
      rw [getElem?_set_self, Option.some.injEq] at hc
      have hlt : i < (s.ready i).width := by
        rw [width_ready]
        omega
      rcases truncate_cases (sound_ready h.sound i) hlt values with
        hwhole | ⟨_, _, _, _, hdropped, _, _, _, _, hlength, _⟩
      · exact Or.inl (hc.symm.trans hwhole)
      · rw [height_ready] at hlength
        rw [← hc, hdropped]
        exact Or.inr ⟨Truncation.noConfusion, hlength, resize_of_length hlength⟩
    · rw [Function.update_of_ne hi, height_set]
      rw [getElem?_set_of_ne s hi] at hc
      rcases (holds_ready h index).column i c hc with hwhole | ⟨hdropped, hlength, hexpand⟩
      · exact Or.inl hwhole
      · rw [height_ready] at hlength
        rw [expand_set_ready h.sound hi]
        exact Or.inr ⟨hdropped, hlength, hexpand⟩
  beyond := by
    intro i hi
    rw [width_set] at hi
    rw [Function.update_of_ne (by omega)]
    exact h.beyond i (by omega)

theorem holds_empty (height : Nat) : (empty height).Holds fun _ => [] where
  sound := sound_empty height
  column := by
    intro i c hc
    simp [empty] at hc
  beyond := fun _ _ => rfl

/-! ## How columns are stored -/

theorem column_of_truncation {i : Nat} {t : Truncation} (h : s.truncation i = some t) :
    ∃ values, s.columns[i]? = some ⟨values, t⟩ := by
  obtain ⟨⟨values, _⟩, hc, rfl⟩ := Option.map_eq_some_iff.mp h
  exact ⟨values, hc⟩

theorem truncation_eq {i : Nat} {c : Column} (hc : s.columns[i]? = some c) :
    s.truncation i = some c.truncation := by
  rw [truncation, hc, Option.map_some]

theorem storedLength_eq {i : Nat} {c : Column} (hc : s.columns[i]? = some c) :
    s.storedLength i = some c.values.length := by
  rw [storedLength, hc, Option.map_some]

end Columns

/-! ## Runs at one height -/

/-- What is held at each place after a change, if nothing is held that was not written. -/
def Act.contentsAfter (f : Nat → List Single) : Act → Nat → List Single
  | .set index values => Function.update f index values
  | .clear => fun _ => []
  | .setHeight _ => f

/-- The values at each place after a run of changes: those that were written there last since the
columns were removed, and none at any other place. -/
def contents (acts : List Act) : Nat → List Single := acts.foldl Act.contentsAfter fun _ => []

theorem contents_snoc (acts : List Act) (a : Act) :
    contents (acts ++ [a]) = a.contentsAfter (contents acts) := by
  simp [contents, List.foldl_append]

/-- A run does not set the height. -/
def AtOneHeight (acts : List Act) : Prop := ∀ height, Act.setHeight height ∉ acts

theorem holds_run (height : Nat) {acts : List Act} (h : AtOneHeight acts) :
    (Columns.run height acts).Holds (contents acts) ∧
      (Columns.run height acts).height = height := by
  induction acts using List.reverseRecOn with
  | nil => exact ⟨Columns.holds_empty height, rfl⟩
  | append_singleton acts a ih =>
    have hbefore : AtOneHeight acts := fun new hmem => h new (List.mem_append_left _ hmem)
    obtain ⟨hholds, hheight⟩ := ih hbefore
    rw [Columns.run_snoc, contents_snoc]
    cases a with
    | set index values =>
      refine ⟨Columns.holds_set hholds index values, ?_⟩
      rw [Columns.apply, Columns.height_set, hheight]
    | clear => exact ⟨Columns.holds_empty _, hheight⟩
    | setHeight new => exact absurd (List.mem_concat_self) (h new)

end AudioHost.Grid
