import AudioHost.Grid.Columns
import AudioHost.Proofs.Grid.Runs

/-!
The laws of references between columns. Every reference leads a few columns back to a column that
is kept whole, so a column reads through one reference at most, and a write that first detaches the
columns that refer to its place changes no other column.
-/

namespace AudioHost.Grid.Columns

/-! ## Reading through a reference -/

theorem expand_none {s : Columns} {i : Nat} (h : s.columns[i]? = none) : s.expand i = [] := by
  rw [expand, h]

theorem expand_whole {s : Columns} {i : Nat} {values : List Single}
    (h : s.columns[i]? = some (.whole values)) : s.expand i = resize s.height values := by
  rw [expand, h]
  rfl

theorem expand_dropped {s : Columns} {i back : Nat} {kept : List Single} {side : Side}
    (h : s.columns[i]? = some ⟨kept, .dropped side back⟩) (hback : 0 < back) (hi : back ≤ i) :
    s.expand i = Column.splice side kept (s.expand (i - back)) := by
  rw [expand, h]
  simp [hback, hi]

/-! ## The invariant -/

/-- A column at a place stands on its own, or it refers to an earlier column that is kept whole, at
most `maxBack` places back. -/
def Anchored (s : Columns) (i : Nat) (c : Column) : Prop :=
  ∀ side back, c.truncation = .dropped side back →
    0 < back ∧ back ≤ maxBack ∧ back ≤ i ∧
      ∃ values, s.columns[i - back]? = some (.whole values)

/-- Every column is anchored. -/
def Sound (s : Columns) : Prop := ∀ i c, s.columns[i]? = some c → s.Anchored i c

theorem whole_of_truncation {c : Column} (h : c.truncation = .whole) : c = .whole c.values := by
  obtain ⟨values, truncation⟩ := c
  subst h
  rfl

/-- A column of a sound grid is kept whole, or its reference gives its values. -/
theorem expand_cases {s : Columns} (hs : s.Sound) {i : Nat} {c : Column}
    (hc : s.columns[i]? = some c) :
    (∃ values, c = .whole values ∧ s.expand i = resize s.height values) ∨
      ∃ kept side back values, c = ⟨kept, .dropped side back⟩ ∧ 0 < back ∧ back ≤ i ∧
        s.columns[i - back]? = some (.whole values) ∧
        s.expand i = Column.splice side kept (resize s.height values) := by
  obtain ⟨kept, _ | ⟨side, back⟩⟩ := c
  · exact Or.inl ⟨kept, rfl, expand_whole hc⟩
  · obtain ⟨h0, _, hi, values, href⟩ := hs i _ hc side back rfl
    refine Or.inr ⟨kept, side, back, values, rfl, h0, hi, href, ?_⟩
    rw [expand_dropped hc h0 hi, expand_whole href]

/-- Two sound grids of one height agree on a column that both keep in the same way, if they also
agree on the column that it refers to. -/
theorem expand_congr {s t : Columns} (hs : s.Sound) (hheight : t.height = s.height) {i : Nat}
    {c : Column} (hc : s.columns[i]? = some c) (hsame : t.columns[i]? = some c)
    (href : ∀ side back, c.truncation = .dropped side back →
      t.columns[i - back]? = s.columns[i - back]?) :
    t.expand i = s.expand i := by
  rcases expand_cases hs hc with ⟨values, rfl, he⟩ | ⟨kept, side, back, values, rfl, h0, hi, hr, he⟩
  · rw [expand_whole hsame, he, hheight]
  · rw [expand_dropped hsame h0 hi, expand_whole ((href side back rfl).trans hr), he, hheight]

theorem sound_empty (height : Nat) : (empty height).Sound := by
  intro i c hc
  simp [empty] at hc

theorem sound_setHeight {s : Columns} (hs : s.Sound) (height : Nat) : (s.setHeight height).Sound :=
  hs

/-! ## Detaching -/

theorem refersTo_iff (c : Column) (later index : Nat) :
    refersTo c later index = true ↔
      ∃ side back, c.truncation = .dropped side back ∧ later = index + back := by
  obtain ⟨kept, _ | ⟨side, back⟩⟩ := c
  · simp [refersTo]
  · constructor
    · intro h
      exact ⟨side, back, rfl, by simpa [refersTo] using h⟩
    · rintro ⟨_, _, ⟨⟩, h⟩
      simpa [refersTo] using h

/-- The column at a place refers to the one at an index. -/
def Refers (s : Columns) (later index : Nat) : Prop :=
  ∃ c, s.columns[later]? = some c ∧ refersTo c later index = true

/-- Detaching a column changes that column only, and only if it refers to the place. -/
theorem getElem?_detachOne (s : Columns) (index later i : Nat) :
    (s.detachOne index later).columns[i]? =
      s.columns[i]?.map fun c =>
        if i = later ∧ refersTo c i index = true then .whole (s.expand i) else c := by
  by_cases hi : i = later
  · subst hi
    unfold detachOne
    rcases hc : s.columns[i]? with _ | c
    · exact hc
    · have hlt := (List.getElem?_eq_some_iff.mp hc).1
      dsimp only
      split
      · next hrefers => simp [hrefers, List.getElem?_set_self hlt]
      · next hnot => simp [hnot, hc]
  · have hsame : (s.detachOne index later).columns[i]? = s.columns[i]? := by
      unfold detachOne
      split
      · rfl
      · split
        · exact List.getElem?_set_ne (Ne.symm hi)
        · rfl
    simp [hsame, hi]

theorem height_detachOne (s : Columns) (index later : Nat) :
    (s.detachOne index later).height = s.height := by
  unfold detachOne
  split
  · rfl
  · split <;> rfl

theorem width_detachOne (s : Columns) (index later : Nat) :
    (s.detachOne index later).width = s.width := by
  unfold detachOne
  split
  · rfl
  · split
    · simp [width]
    · rfl

/-- A column that is kept whole refers to no other, so it stays as it is. -/
theorem getElem?_detachOne_whole {s : Columns} {i : Nat} {values : List Single}
    (h : s.columns[i]? = some (.whole values)) (index later : Nat) :
    (s.detachOne index later).columns[i]? = some (.whole values) := by
  rw [getElem?_detachOne, h]
  simp [refersTo, Column.whole]

theorem sound_detachOne {s : Columns} (hs : s.Sound) (index later : Nat) :
    (s.detachOne index later).Sound := by
  intro i c hc side back hside
  rw [getElem?_detachOne, Option.map_eq_some_iff] at hc
  obtain ⟨old, hold, rfl⟩ := hc
  split at hside
  · cases hside
  · -- A column that is referred to is kept whole, so detaching does not touch it.
    obtain ⟨h0, hmax, hi, values, href⟩ := hs i old hold side back hside
    exact ⟨h0, hmax, hi, values, getElem?_detachOne_whole href index later⟩

/-- Detaching keeps what the columns of the height read as. -/
theorem expand_detachOne {s : Columns} (hs : s.Sound) (index later : Nat) {i : Nat}
    (hlen : (s.expand i).length = s.height) :
    (s.detachOne index later).expand i = s.expand i := by
  have hcolumn := getElem?_detachOne s index later i
  rcases hc : s.columns[i]? with _ | c
  · rw [hc] at hcolumn
    rw [expand_none hc, expand_none hcolumn]
  · rw [hc, Option.map_some] at hcolumn
    split at hcolumn
    · -- The column is now stored as it read.
      rw [expand_whole hcolumn, height_detachOne]
      exact resize_of_length hlen
    · -- The column is as it was, and so is the whole one that it refers to.
      refine expand_congr hs (height_detachOne s index later) hc hcolumn ?_
      intro side back hside
      obtain ⟨_, _, _, values, href⟩ := hs i c hc side back hside
      rw [href, getElem?_detachOne_whole href]

theorem Refers.of_detachOne {s : Columns} {index later i : Nat}
    (h : (s.detachOne index later).Refers i index) : s.Refers i index ∧ i ≠ later := by
  obtain ⟨c, hc, hrefers⟩ := h
  rw [getElem?_detachOne, Option.map_eq_some_iff] at hc
  obtain ⟨old, hold, rfl⟩ := hc
  split at hrefers
  · cases hrefers
  · next hnot => exact ⟨⟨old, hold, hrefers⟩, fun hi => hnot ⟨hi, hrefers⟩⟩

/-! ## Detaching a place -/

/-- A grid comes from another by storing some columns whole that referred to a place. -/
structure Detached (index : Nat) (s t : Columns) : Prop where
  height_eq : t.height = s.height
  width_eq : t.width = s.width
  whole : ∀ (i : Nat) (values : List Single), s.columns[i]? = some (Column.whole values) →
    t.columns[i]? = some (Column.whole values)
  sound : s.Sound → t.Sound
  expand : s.Sound → ∀ i, (s.expand i).length = s.height → t.expand i = s.expand i
  refers : ∀ i, t.Refers i index → s.Refers i index

theorem Detached.refl (index : Nat) (s : Columns) : Detached index s s :=
  ⟨rfl, rfl, fun _ _ h => h, fun h => h, fun _ _ _ => rfl, fun _ h => h⟩

theorem Detached.trans {index : Nat} {s t u : Columns} (h : Detached index s t)
    (h' : Detached index t u) : Detached index s u where
  height_eq := h'.height_eq.trans h.height_eq
  width_eq := h'.width_eq.trans h.width_eq
  whole := fun i values hi => h'.whole i values (h.whole i values hi)
  sound := fun hs => h'.sound (h.sound hs)
  expand := by
    intro hs i hlen
    have hexpand := h.expand hs i hlen
    rw [h'.expand (h.sound hs) i (by rw [hexpand, h.height_eq]; exact hlen), hexpand]
  refers := fun i hi => h.refers i (h'.refers i hi)

theorem detached_detachOne (s : Columns) (index later : Nat) :
    Detached index s (s.detachOne index later) where
  height_eq := height_detachOne s index later
  width_eq := width_detachOne s index later
  whole := fun _ _ h => getElem?_detachOne_whole h index later
  sound := fun hs => sound_detachOne hs index later
  expand := fun hs _ => expand_detachOne hs index later
  refers := fun _ h => h.of_detachOne.1

/-- After columns are detached one after the other, none of them refers to the place. -/
theorem detached_foldl (s : Columns) (index : Nat) (places : List Nat) :
    Detached index s (places.foldl (fun s later => s.detachOne index later) s) ∧
      ∀ later ∈ places,
        ¬ (places.foldl (fun s later => s.detachOne index later) s).Refers later index := by
  induction places generalizing s with
  | nil => exact ⟨.refl index s, by simp⟩
  | cons first rest ih =>
    obtain ⟨hdetached, hnone⟩ := ih (s.detachOne index first)
    refine ⟨(detached_detachOne s index first).trans hdetached, ?_⟩
    intro later hlater
    rcases List.mem_cons.mp hlater with rfl | hlater
    · -- What comes after the first step makes no reference anew.
      intro hrefers
      exact (hdetached.refers later hrefers).of_detachOne.2 rfl
    · exact hnone later hlater

theorem detached_detach (s : Columns) (index : Nat) : Detached index s (s.detach index) :=
  (detached_foldl s index _).1

/-- No column refers to a place. -/
def Unreferred (s : Columns) (index : Nat) : Prop :=
  ∀ i c side back, s.columns[i]? = some c → c.truncation = .dropped side back → i ≠ index + back

/-- References go a few places back only, so detaching the next few columns is enough. -/
theorem unreferred_detach {s : Columns} (hs : s.Sound) (index : Nat) :
    (s.detach index).Unreferred index := by
  intro i c side back hc hside hi
  obtain ⟨h0, hmax, _⟩ := (detached_detach s index).sound hs i c hc side back hside
  have hnear : i ∈ List.range' (index + 1) maxBack := by
    rw [List.mem_range'_1]
    omega
  exact (detached_foldl s index _).2 i hnear
    ⟨c, hc, (refersTo_iff c i index).mpr ⟨side, back, hside, hi⟩⟩

/-! ## Growing -/

@[simp] theorem height_grow (s : Columns) (index : Nat) : (s.grow index).height = s.height := rfl

theorem getElem?_grow_of_lt {s : Columns} {i : Nat} (index : Nat) (h : i < s.width) :
    (s.grow index).columns[i]? = s.columns[i]? := by
  simp only [grow]
  exact List.getElem?_append_left h

/-- A column that is new is a gap. -/
theorem getElem?_grow_of_ge {s : Columns} {index i : Nat} (h : s.width ≤ i) {c : Column}
    (hc : (s.grow index).columns[i]? = some c) : c = .gap := by
  simp only [grow] at hc
  rw [List.getElem?_append_right h, List.getElem?_replicate] at hc
  split at hc
  · exact (Option.some.inj hc).symm
  · cases hc

theorem sound_grow {s : Columns} (hs : s.Sound) (index : Nat) : (s.grow index).Sound := by
  intro i c hc side back hside
  -- Old columns refer to old columns, and new ones are gaps.
  rcases Nat.lt_or_ge i s.width with hi | hi
  · rw [getElem?_grow_of_lt index hi] at hc
    obtain ⟨h0, hmax, hle, values, href⟩ := hs i c hc side back hside
    exact ⟨h0, hmax, hle, values, by rw [getElem?_grow_of_lt index (by omega)]; exact href⟩
  · rw [getElem?_grow_of_ge hi hc] at hside
    cases hside

theorem unreferred_grow {s : Columns} {index : Nat} (h : s.width ≤ index) :
    (s.grow index).Unreferred index := by
  intro i c side back hc hside
  rcases Nat.lt_or_ge i s.width with hi | hi
  · omega
  · rw [getElem?_grow_of_ge hi hc] at hside
    cases hside

theorem expand_grow {s : Columns} (hs : s.Sound) (index : Nat) {i : Nat} (hi : i < s.width) :
    (s.grow index).expand i = s.expand i := by
  rcases hc : s.columns[i]? with _ | c
  · rw [expand_none hc, expand_none ((getElem?_grow_of_lt index hi).trans hc)]
  · refine expand_congr hs (height_grow s index) hc ((getElem?_grow_of_lt index hi).trans hc) ?_
    intro side back _
    exact getElem?_grow_of_lt index (by omega)

end AudioHost.Grid.Columns
