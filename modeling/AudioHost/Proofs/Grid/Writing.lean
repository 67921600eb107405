import AudioHost.Proofs.Grid.References

/-!
The laws of one write. A write keeps every reference sound, gives its own column the written values
at the height, and leaves the other columns that have the height as they were.
-/

namespace AudioHost.Grid.Columns

/-! ## The form of a new column -/

/-- The column that a new column would refer to is kept whole: it is the one before, or the one
that this refers to. -/
theorem inherited_whole {s : Columns} (hs : s.Sound) {index : Nat} (h0 : index ≠ 0)
    (hi : index < s.width) {known : Option Side} {back : Nat}
    (h : inherited ((s.truncation (index - 1)).getD .whole) = (known, back)) :
    0 < back ∧ back ≤ index ∧ ∃ values, s.columns[index - back]? = some (.whole values) := by
  have hlt : index - 1 < s.columns.length := by
    simp only [width] at hi
    omega
  obtain ⟨c, hc⟩ : ∃ c, s.columns[index - 1]? = some c := ⟨_, List.getElem?_eq_getElem hlt⟩
  simp only [truncation, hc, Option.map_some, Option.getD_some] at h
  -- References do not chain: either the column before is whole, or it refers to a whole one.
  rcases htr : c.truncation with _ | ⟨side, b⟩
  · rw [htr] at h
    cases h
    exact ⟨Nat.one_pos, by omega, c.values, hc.trans (congrArg some (whole_of_truncation htr))⟩
  · rw [htr] at h
    cases h
    obtain ⟨_, _, hle, values, href⟩ := hs (index - 1) c hc side b htr
    refine ⟨by omega, by omega, values, ?_⟩
    rw [← href]
    congr 1
    omega

/-- A new column is stored whole, or it refers to a column that is kept whole and has its values
again when the run is put back. -/
theorem truncate_cases {s : Columns} (hs : s.Sound) {index : Nat} (hi : index < s.width)
    (values : List Single) :
    s.truncate index values = .whole values ∨
      ∃ kept side back whole, s.truncate index values = ⟨kept, .dropped side back⟩ ∧
        0 < back ∧ back ≤ maxBack ∧ back ≤ index ∧
        s.columns[index - back]? = some (.whole whole) ∧ values.length = s.height ∧
        Column.splice side kept (resize s.height whole) = values := by
  -- The guards in turn: a first column or another height, too far back, a reference of another
  -- height. Each of them stores the column whole.
  unfold truncate
  split
  · exact Or.inl rfl
  · rename_i hfirst
    rw [not_or, Decidable.not_not] at hfirst
    obtain ⟨h0, hlen⟩ := hfirst
    rcases hin : inherited ((s.truncation (index - 1)).getD .whole) with ⟨known, back⟩
    obtain ⟨hpos, hle, whole, href⟩ := inherited_whole hs h0 hi hin
    dsimp only
    split
    · exact Or.inl rfl
    · split
      · exact Or.inl rfl
      · rename_i hmax hreference
        rw [Decidable.not_not] at hreference
        rw [expand_whole href] at hreference ⊢
        rcases Column.against_cases known back (hreference.trans hlen.symm) with
          hw | ⟨side, kept, hd, hsplice⟩
        · exact Or.inl hw
        · exact Or.inr ⟨kept, side, back, whole, hd, hpos, Nat.not_lt.mp hmax, hle, href, hlen,
            hsplice⟩

/-! ## The place of a new column -/

/-- The grid with room for a column that no other column refers to. -/
def ready (s : Columns) (index : Nat) : Columns :=
  if index < s.width then s.detach index else s.grow index

theorem set_eq (s : Columns) (index : Nat) (values : List Single) :
    s.set index values =
      { s.ready index with
        columns := (s.ready index).columns.set index ((s.ready index).truncate index values) } :=
  rfl

@[simp] theorem height_ready (s : Columns) (index : Nat) : (s.ready index).height = s.height := by
  unfold ready
  split
  · exact (detached_detach s index).height_eq
  · rfl

theorem width_ready (s : Columns) (index : Nat) :
    (s.ready index).width = max s.width (index + 1) := by
  unfold ready
  split
  · rw [(detached_detach s index).width_eq]
    omega
  · simp only [grow, width, List.length_append, List.length_replicate] at *
    omega

theorem sound_ready {s : Columns} (hs : s.Sound) (index : Nat) : (s.ready index).Sound := by
  unfold ready
  split
  · exact (detached_detach s index).sound hs
  · exact sound_grow hs index

theorem unreferred_ready {s : Columns} (hs : s.Sound) (index : Nat) :
    (s.ready index).Unreferred index := by
  unfold ready
  split
  · exact unreferred_detach hs index
  · rename_i h
    exact unreferred_grow (Nat.not_lt.mp h)

/-- Making room keeps what the columns of the height read as. -/
theorem expand_ready {s : Columns} (hs : s.Sound) (index : Nat) {i : Nat} (hi : i < s.width)
    (hlen : (s.expand i).length = s.height) : (s.ready index).expand i = s.expand i := by
  unfold ready
  split
  · exact (detached_detach s index).expand hs i hlen
  · exact expand_grow hs index hi

/-! ## The grid after a write -/

@[simp] theorem height_set (s : Columns) (index : Nat) (values : List Single) :
    (s.set index values).height = s.height := height_ready s index

@[simp] theorem width_set (s : Columns) (index : Nat) (values : List Single) :
    (s.set index values).width = max s.width (index + 1) := by
  rw [← width_ready s index, set_eq]
  simp [width]

theorem getElem?_set_self (s : Columns) (index : Nat) (values : List Single) :
    (s.set index values).columns[index]? = some ((s.ready index).truncate index values) := by
  have h := width_ready s index
  rw [width] at h
  rw [set_eq]
  exact List.getElem?_set_self (by omega)

theorem getElem?_set_of_ne (s : Columns) {index i : Nat} (h : i ≠ index) (values : List Single) :
    (s.set index values).columns[i]? = (s.ready index).columns[i]? := by
  rw [set_eq]
  exact List.getElem?_set_ne h.symm

/-- A write keeps every reference sound: what was detached refers to nothing, and nothing refers to
the place that is written. -/
theorem sound_set {s : Columns} (hs : s.Sound) (index : Nat) (values : List Single) :
    (s.set index values).Sound := by
  have hready := sound_ready hs index
  intro i c hc side back hside
  -- The new column refers to an earlier place. Of the others none refers to the new one, so what
  -- they refer to is as before.
  by_cases hi : i = index
  · subst hi
    rw [getElem?_set_self, Option.some.injEq] at hc
    subst hc
    have hlt : i < (s.ready i).width := by
      rw [width_ready]
      omega
    rcases truncate_cases hready hlt values with hw | ⟨_, _, b, whole, hd, h0, hmax, hle, href, _⟩
    · rw [hw] at hside
      cases hside
    · rw [hd] at hside
      cases hside
      exact ⟨h0, hmax, hle, whole, by rw [getElem?_set_of_ne s (by omega)]; exact href⟩
  · rw [getElem?_set_of_ne s hi] at hc
    obtain ⟨h0, hmax, hle, whole, href⟩ := hready i c hc side back hside
    have hne : i - back ≠ index := by
      have := unreferred_ready hs index i c side back hc hside
      omega
    exact ⟨h0, hmax, hle, whole, by rw [getElem?_set_of_ne s hne]; exact href⟩

/-- The written column reads as the written values at the height. -/
theorem expand_set_self {s : Columns} (hs : s.Sound) (index : Nat) (values : List Single) :
    (s.set index values).expand index = resize s.height values := by
  have hc := getElem?_set_self s index values
  have hlt : index < (s.ready index).width := by
    rw [width_ready]
    omega
  rcases truncate_cases (sound_ready hs index) hlt values with
    hw | ⟨kept, side, back, whole, hd, h0, _, hle, href, hlen, hsplice⟩
  · rw [hw] at hc
    rw [expand_whole hc, height_set]
  · rw [hd] at hc
    rw [← getElem?_set_of_ne s (by omega : index - back ≠ index) values] at href
    rw [height_ready] at hlen hsplice
    rw [expand_dropped hc h0 hle, expand_whole href, height_set, hsplice, resize_of_length hlen]

/-- A write changes no other column once there is room for the new one. -/
theorem expand_set_ready {s : Columns} (hs : s.Sound) {index i : Nat} (hne : i ≠ index)
    (values : List Single) : (s.set index values).expand i = (s.ready index).expand i := by
  rcases hc : (s.ready index).columns[i]? with _ | c
  · rw [expand_none hc, expand_none ((getElem?_set_of_ne s hne values).trans hc)]
  have hsame := (getElem?_set_of_ne s hne values).trans hc
  -- Neither the column nor the one that it refers to is at the place that is written.
  refine expand_congr (t := s.set index values) (sound_ready hs index) rfl hc hsame ?_
  intro side back hside
  have := unreferred_ready hs index i _ side back hc hside
  have hback := (sound_ready hs index i _ hc side back hside).2.2.1
  exact getElem?_set_of_ne s (by omega) values

theorem expand_set_of_ne {s : Columns} (hs : s.Sound) {index i : Nat} (hi : i < s.width)
    (hne : i ≠ index) (hlen : (s.expand i).length = s.height) (values : List Single) :
    (s.set index values).expand i = s.expand i := by
  rw [expand_set_ready hs hne, expand_ready hs index hi hlen]

/-- A place that a write only makes, or that was a gap before it, is a gap. -/
theorem gap_set_of_ne {s : Columns} {index i : Nat} (hne : i ≠ index) (values : List Single)
    (hi : i < (s.set index values).width) (hgap : i < s.width → s.columns[i]? = some .gap) :
    (s.set index values).columns[i]? = some .gap := by
  rw [getElem?_set_of_ne s hne, ready]
  rw [width_set] at hi
  split
  · exact (detached_detach s index).whole i [] (hgap (by omega))
  · rcases Nat.lt_or_ge i s.width with hlt | hge
    · rw [getElem?_grow_of_lt index hlt]
      exact hgap hlt
    · have hlt : i < (s.grow index).columns.length := by
        simp only [grow, List.length_append, List.length_replicate, width] at *
        omega
      have hc := List.getElem?_eq_getElem hlt
      rw [hc, getElem?_grow_of_ge hge hc]

end AudioHost.Grid.Columns
