import AudioHost.Proofs.Grid.Contents
import AudioHost.Proofs.Grid.TimeLine

/-!
The rows of windows that follow one another. First frames rise from column to column, so where a
window is cut in two each of its rows goes to one part, and the rows of both parts in order are its
rows.
-/

namespace AudioHost.Grid

variable {g : Grid}

/-! ## Columns in a window -/

theorem columnFrame_lt (h : g.ColumnsFit) (hr : 0 < g.resolution) {i j : Nat} (hij : i < j)
    (hj : j < g.width) : g.columnFrame i < g.columnFrame j := by
  rw [columnFrame_eq h (hij.trans hj), columnFrame_eq h hj]
  have hwindow : g.windowStart i < g.windowStart j := by
    unfold windowStart
    exact Int.mul_lt_mul_of_pos_right (by omega) (by omega)
  omega

/-- A window ends where it says, or at the last frame. -/
theorem lt_frameSum_iff (h : g.ColumnsFit) {i : Nat} (hi : i < g.width) (s a : Int) :
    g.columnFrame i < frameSum s a ↔ g.columnFrame i < min lastFrame (s + a) := by
  rw [columnFrame_eq h hi, frameSum, lt_max_iff]
  exact or_iff_right (Int.not_lt.mpr (h i hi).1)

/-- Where all that passes a test stands in front, the two parts in order are the whole. -/
theorem filter_append_of_front {p : Nat → Bool} {l : List Nat}
    (h : l.Pairwise fun i j => p j = true → p i = true) :
    l.filter p ++ l.filter (fun i => !p i) = l := by
  induction l with
  | nil => rfl
  | cons i l ih =>
    obtain ⟨hi, hl⟩ := List.pairwise_cons.mp h
    by_cases hp : p i = true
    · simp [hp, ih hl]
    · -- Behind the first one that fails all fail, so there is no front part.
      have hnone : l.filter p = [] := List.filter_eq_nil_iff.mpr fun j hj hpj => hp (hi j hj hpj)
      have hrest := ih hl
      rw [hnone, List.nil_append] at hrest
      simp [hp, hnone, hrest]

theorem columnsWithin_append (h : g.ColumnsFit) (hr : 0 < g.resolution) {s a b : Int} (ha : 0 ≤ a)
    (hb : 0 ≤ b) (hend : s + a + b ≤ lastFrame) :
    g.columnsWithin s a ++ g.columnsWithin (s + a) b = g.columnsWithin s (a + b) := by
  -- First frames rise, so the columns that begin before the cut stand in front.
  have hcut : (g.columnsWithin s (a + b)).Pairwise fun i j =>
      decide (g.columnFrame j < s + a) = true → decide (g.columnFrame i < s + a) = true := by
    apply List.Pairwise.filter
    apply List.pairwise_lt_range.imp_of_mem
    intro i j _ hj hij hbefore
    have hlt := columnFrame_lt h hr hij (List.mem_range.mp hj)
    simp only [decide_eq_true_eq] at hbefore ⊢
    omega
  refine Eq.trans ?_ (filter_append_of_front hcut)
  unfold columnsWithin
  rw [List.filter_filter, List.filter_filter]
  congr 1
  all_goals
    apply List.filter_congr
    intro i hi
    rw [List.mem_range] at hi
    have hfront := lt_frameSum_iff h hi s a
    have hback := lt_frameSum_iff h hi (s + a) b
    have hwhole := lt_frameSum_iff h hi s (a + b)
    rw [min_eq_right (by omega)] at hfront hback hwhole
    rw [Bool.eq_iff_iff]
    simp only [Bool.and_eq_true, Bool.not_eq_true', decide_eq_true_eq, decide_eq_false_iff_not]
    omega

theorem rows_append (h : g.ColumnsFit) (hr : 0 < g.resolution) {s a b : Int} (ha : 0 ≤ a)
    (hb : 0 ≤ b) (hend : s + a + b ≤ lastFrame) :
    g.rows s a ++ g.rows (s + a) b = g.rows s (a + b) := by
  unfold rows
  rw [← List.map_append, columnsWithin_append h hr ha hb hend]

theorem rows_all (h : g.ColumnsFit) {s a : Int}
    (hall : ∀ i < g.width, s ≤ g.startFrame + g.windowStart i ∧
      g.startFrame + g.windowStart i < min lastFrame (s + a)) :
    g.rows s a = (List.range g.width).map g.cells := by
  unfold rows columnsWithin
  congr 1
  apply List.filter_eq_self.mpr
  intro i hi
  rw [List.mem_range] at hi
  obtain ⟨hlow, hhigh⟩ := hall i hi
  rw [← columnFrame_eq h hi] at hlow hhigh
  simp only [Bool.and_eq_true, decide_eq_true_eq]
  exact ⟨hlow, (lt_frameSum_iff h hi s a).mpr hhigh⟩

/-! ## The cells of a row -/

/-- What a call does to the columns: it writes one, it sets their height, or it leaves them. -/
theorem columns_call (g : Grid) (c : Call) :
    (∃ index values, c = .setColumn index values ∧
      (g.call c).1.columns = g.columns.set index values) ∨
      (∃ bins, c = .setHeight bins ∧ (g.call c).1.columns = g.columns.setHeight bins) ∨
      (g.call c).1.columns = g.columns := by
  cases c with
  | setColumn index values => exact Or.inl ⟨index, values, rfl, columns_setColumn g index values⟩
  | setHeight bins => exact Or.inr (Or.inl ⟨bins, rfl, rfl⟩)
  | setCompletion completion update =>
    obtain ⟨_, _, _, hcall⟩ := setCompletion_fst g completion update
    exact Or.inr (Or.inr (by rw [call, hcall]))
  | _ => exact Or.inr (Or.inr rfl)

/-- While the height stays as it was made, the columns hold some values at this height. -/
theorem holds_after (sampleRate : Double) (resolution bins : Nat) (notifyOnAdd : Bool)
    {calls : List Call} (h : ∀ new, Call.setHeight new ∈ calls → new = bins) :
    let g := (empty sampleRate resolution bins notifyOnAdd).after calls
    (∃ f, g.columns.Holds f) ∧ g.height = bins := by
  apply after_induction fun g => (∃ f, g.columns.Holds f) ∧ g.height = bins
  · rintro g c hc ⟨⟨f, hf⟩, hheight⟩
    unfold height at *
    rcases columns_call g c with ⟨index, values, rfl, hcolumns⟩ | ⟨new, rfl, hcolumns⟩ | hcolumns
    · rw [hcolumns, Columns.height_set]
      exact ⟨⟨_, Columns.holds_set hf index values⟩, hheight⟩
    · -- The height that is set is the one that it has.
      obtain rfl := h new hc
      subst hheight
      rw [hcolumns]
      exact ⟨⟨f, hf⟩, rfl⟩
    · rw [hcolumns]
      exact ⟨⟨f, hf⟩, hheight⟩
  · exact ⟨⟨_, Columns.holds_empty bins⟩, rfl⟩

theorem length_headers (g : Grid) : g.headers.length = g.height := by
  simp [headers]

theorem length_row {f : Nat → List Single} (h : g.columns.Holds f) {s a : Int} {row : List String}
    (hrow : row ∈ g.rows s a) : row.length = g.height := by
  obtain ⟨i, hi, rfl⟩ := List.mem_map.mp hrow
  have hwidth : i < g.columns.width := List.mem_range.mp (List.mem_filter.mp hi).1
  have hcolumn : g.column i = g.columns.expand i := by
    simp [column, Columns.get, hwidth]
  rw [cells, List.length_map, hcolumn, h.length_expand hwidth, height]

/-! ## The law -/

/-- Let the first frames of all columns be frame numbers. The rows of two windows that follow one
another are the rows of the window that they make up. A window that holds the first frames of all
columns shows one row for each of them, in order; it is cut off at the last frame. While the height
is not changed, every row has a cell for each header. -/
theorem windows_in_a_row_show_every_row_once (sampleRate : Double) (resolution bins : Nat)
    (notifyOnAdd : Bool) (calls : List Call) :
    let g := (empty sampleRate resolution bins notifyOnAdd).after calls
    (g.ColumnsFit →
      (∀ s a b, 0 ≤ a → 0 ≤ b → s + a + b ≤ lastFrame →
        g.rows s a ++ g.rows (s + a) b = g.rows s (a + b)) ∧
      ∀ s a, (∀ i < g.width, s ≤ g.startFrame + g.windowStart i ∧
          g.startFrame + g.windowStart i < min lastFrame (s + a)) →
        g.rows s a =
          (List.range g.width).map fun i => (g.column i).map NumberStyle.plain.single) ∧
    ((∀ new, Call.setHeight new ∈ calls → new = bins) →
      ∀ s a, ∀ row ∈ g.rows s a, row.length = g.headers.length) := by
  intro g
  have hr : 0 < g.resolution := resolution_pos_after sampleRate resolution bins notifyOnAdd calls
  refine ⟨fun hfit => ⟨fun s a b => rows_append hfit hr, fun s a => rows_all hfit⟩,
    fun hheight s a row hrow => ?_⟩
  obtain ⟨⟨f, hholds⟩, _⟩ := holds_after sampleRate resolution bins notifyOnAdd hheight
  rw [length_headers, length_row hholds hrow]

/-- The grid starts before frame zero, with a column that is written anew and a gap. The windows
meet where a column begins. -/
theorem a_window_is_cut_where_a_column_begins :
    let one : Single := ⟨0x3f800000⟩
    let two : Single := ⟨0x40000000⟩
    let calls : List Call := [.setHeight 2, .setColumn 0 [one, two], .setColumn 3 [one],
      .setColumn 1 [one, two], .setColumn 0 [two], .setResolution 0, .setResolution 10,
      .setStartFrame (-25)]
    let g := (empty ⟨0x40e5888000000000⟩ 512 2 true).after calls
    g.ColumnsFit ∧ g.columnsWithin (-25) 10 = [0] ∧ g.columnsWithin (-15) 20 = [1, 2] ∧
      g.rows (-25) 10 ++ g.rows (-15) 20 = g.rows (-25) 30 ∧
      g.rows (-30) 40 = [["2", "0"], ["1", "2"], ["0", "0"], ["1", "0"]] ∧
      (∀ new, Call.setHeight new ∈ calls → new = 2) ∧ ["1", "2"].length = g.headers.length := by
  intro one two calls g
  have hfit : g.ColumnsFit := by decide +kernel
  have hheight : ∀ new, Call.setHeight new ∈ calls → new = 2 := by simp [calls]
  have hall : ∀ i < g.width, (-30) ≤ g.startFrame + g.windowStart i ∧
      g.startFrame + g.windowStart i < min lastFrame (-30 + 40) := by
    decide +kernel
  obtain ⟨hwindows, hlengths⟩ :=
    windows_in_a_row_show_every_row_once ⟨0x40e5888000000000⟩ 512 2 true calls
  obtain ⟨hcut, hwhole⟩ := hwindows hfit
  have hrows : g.rows (-30) 40 = [["2", "0"], ["1", "2"], ["0", "0"], ["1", "0"]] :=
    (hwhole (-30) 40 hall).trans (by decide +kernel)
  have hmem : ["1", "2"] ∈ g.rows (-30) 40 := by
    rw [hrows]
    decide
  exact ⟨hfit, by decide +kernel, by decide +kernel,
    hcut (-25) 10 20 (by decide) (by decide) (by decide), hrows, hheight,
    hlengths hheight (-30) 40 _ hmem⟩

end AudioHost.Grid
