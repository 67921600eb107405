import AudioHost.Files.Path

/-!
The order of paths. It is total, and of paths that come before each other both are the same, so a
row of paths that is sorted starts with the smallest one.
-/

namespace AudioHost.Path

namespace Part

variable {a b c : Part}

theorem le_total (a b : Part) : a.le b = true ∨ b.le a = true := by
  cases a with
  | name xs =>
    cases b with
    | name ys => simpa [le] using String.le_total (String.ofList xs) (String.ofList ys)
    | _ => simp [le, rank]
  | _ => cases b <;> simp [le, rank]

theorem le_trans (h : a.le b = true) (h' : b.le c = true) : a.le c = true := by
  cases a <;> cases b <;> cases c <;> simp [le, rank] at *
  -- Only the order of names is left, the other parts have ranks.
  exact String.le_trans h h'

theorem le_antisymm (h : a.le b = true) (h' : b.le a = true) : a = b := by
  cases a <;> cases b <;> simp [le, rank] at *
  exact String.ofList_injective (String.le_antisymm h h')

end Part

variable {as bs cs : List Part} {p q : Path} {ps : List Path}

theorem partsLe_total (as bs : List Part) : partsLe as bs = true ∨ partsLe bs as = true := by
  induction as generalizing bs with
  | nil => exact Or.inl rfl
  | cons a as ih =>
    cases bs with
    | nil => exact Or.inr rfl
    | cons b bs =>
      unfold partsLe
      by_cases hab : a = b
      · simpa [hab] using ih bs
      · simpa [hab, Ne.symm hab] using a.le_total b

theorem partsLe_trans (h : partsLe as bs = true) (h' : partsLe bs cs = true) :
    partsLe as cs = true := by
  induction as generalizing bs cs with
  | nil => rfl
  | cons a as ih =>
    cases bs with
    | nil => cases h
    | cons b bs =>
      cases cs with
      | nil => cases h'
      | cons c cs =>
        unfold partsLe at h h' ⊢
        by_cases hab : a = b
        · subst hab
          by_cases hac : a = c
          · simp only [hac, if_true] at *
            exact ih h h'
          · simpa [hac] using h'
        · by_cases hbc : b = c
          · subst hbc
            simpa [hab] using h
          · simp only [hab, hbc, if_false] at h h'
            -- Different parts can not come back to the first one.
            have hac : a ≠ c := by
              rintro rfl
              exact hab (Part.le_antisymm h h')
            simpa [hac] using Part.le_trans h h'

theorem partsLe_antisymm (h : partsLe as bs = true) (h' : partsLe bs as = true) : as = bs := by
  induction as generalizing bs with
  | nil =>
    cases bs with
    | nil => rfl
    | cons b bs => cases h'
  | cons a as ih =>
    cases bs with
    | nil => cases h
    | cons b bs =>
      unfold partsLe at h h'
      by_cases hab : a = b
      · subst hab
        simp only [if_true] at h h'
        rw [ih h h']
      · simp only [hab, Ne.symm hab, if_false] at h h'
        exact absurd (Part.le_antisymm h h') hab

theorem le_total (p q : Path) : p.le q = true ∨ q.le p = true := partsLe_total p.parts q.parts

theorem le_trans {r : Path} (h : p.le q = true) (h' : q.le r = true) : p.le r = true :=
  partsLe_trans h h'

/-- Paths that come before each other are the same, though their texts may differ. -/
theorem same_of_le (h : p.le q = true) (h' : q.le p = true) : p.same q = true := by
  unfold same
  rw [partsLe_antisymm h h', beq_self_eq_true]

theorem pairwise_mergeSort (ps : List Path) :
    (ps.mergeSort le).Pairwise fun p q => p.le q = true := by
  apply List.pairwise_mergeSort
  · exact fun _ _ _ => le_trans
  · intro p q
    simpa using le_total p q

/-- A row that is sorted starts with a path that comes before all of them. -/
theorem head?_mergeSort (h : (ps.mergeSort le).head? = some p) :
    p ∈ ps ∧ ∀ q ∈ ps, p.le q = true := by
  have hsorted := pairwise_mergeSort ps
  have hmem := List.mem_of_head? h
  obtain ⟨rest, hrow⟩ := List.head?_eq_some_iff.mp h
  refine ⟨List.mem_mergeSort.mp hmem, fun q hq => ?_⟩
  have hq : q ∈ ps.mergeSort le := List.mem_mergeSort.mpr hq
  rw [hrow] at hq
  rw [hrow, List.pairwise_cons] at hsorted
  rcases List.mem_cons.mp hq with rfl | hq
  · simpa using le_total q q
  · exact hsorted.1 q hq

end AudioHost.Path
