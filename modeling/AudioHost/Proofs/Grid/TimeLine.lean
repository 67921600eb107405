import AudioHost.Grid.Rows
import AudioHost.Proofs.Grid.Calls
import AudioHost.Proofs.Grid.Writing
import Mathlib.Data.List.Nodup
import Mathlib.Tactic.Ring

/-!
The frames of a notice and the frames of the rows. A row belongs to the first frame of its column,
which lies behind the start frame of the grid. The window in a notice is counted from zero, so it
names the row of the column that was written only while the start frame lies in the first window.
-/

namespace AudioHost.Grid

variable {g : Grid} {index : Nat} {start : Int}

/-! ## First frames -/

/-- The first frames of all columns are frame numbers. -/
def ColumnsFit (g : Grid) : Prop :=
  ∀ i < g.width, firstFrame ≤ g.startFrame + g.windowStart i ∧
    g.startFrame + g.windowStart i ≤ lastFrame

instance (g : Grid) : Decidable g.ColumnsFit := inferInstanceAs (Decidable (∀ _ < _, _ ∧ _))

/-- The windows of all columns lie within the frame numbers, and so does the window of one column as
counted from zero. -/
def FramesFit (g : Grid) (index : Nat) : Prop :=
  (∀ i < g.width, firstFrame ≤ g.startFrame + g.windowStart i ∧
    g.startFrame + g.windowStart i + g.resolution ≤ lastFrame) ∧
  g.windowStart index + g.resolution ≤ lastFrame

instance (g : Grid) (index : Nat) : Decidable (g.FramesFit index) :=
  inferInstanceAs (Decidable (_ ∧ _))

theorem wrapped_of_fits {n : Int} (hlow : firstFrame ≤ n) (hhigh : n ≤ lastFrame) :
    wrapped n = n := by
  unfold firstFrame at hlow
  unfold lastFrame at hhigh
  exact Int.bmod_eq_of_le (by omega) (by omega)

theorem columnFrame_eq (hfit : g.ColumnsFit) {i : Nat} (hi : i < g.width) :
    g.columnFrame i = g.startFrame + g.windowStart i :=
  wrapped_of_fits (hfit i hi).1 (hfit i hi).2

theorem FramesFit.columnsFit (hfit : g.FramesFit index) : g.ColumnsFit := by
  intro i hi
  obtain ⟨hlow, hhigh⟩ := hfit.1 i hi
  exact ⟨hlow, by omega⟩

theorem frameSum_of_fits {a b : Int} (hlow : firstFrame ≤ a + b) (hhigh : a + b ≤ lastFrame) :
    frameSum a b = a + b := by
  rw [frameSum, min_eq_right hhigh, max_eq_right hlow]

/-- Every setter keeps at least one frame per column. -/
theorem resolution_pos_call (h : 0 < g.resolution) (c : Call) : 0 < (g.call c).1.resolution := by
  cases c with
  | setColumn index values => rwa [call, setColumn_resolution]
  | setCompletion completion update =>
    obtain ⟨_, _, _, hcall⟩ := setCompletion_fst g completion update
    rw [call, hcall]
    exact h
  | setResolution resolution => exact Nat.le_max_right resolution 1
  | _ => exact h

theorem resolution_pos_after (sampleRate : Double) (resolution bins : Nat) (notifyOnAdd : Bool)
    (calls : List Call) :
    0 < ((empty sampleRate resolution bins notifyOnAdd).after calls).resolution :=
  after_induction (0 < ·.resolution) (fun _ c _ h => resolution_pos_call h c)
    (Nat.le_max_right resolution 1)

/-! ## Windows of one column -/

/-- A frame of the columns lies in a window just if a division gives the number of the column. -/
theorem in_window_iff {resolution : Nat} (hr : 0 < resolution) (s c : Int) (k i : Nat) :
    (c + k * resolution ≤ s + i * resolution ∧
      s + i * resolution < c + k * resolution + resolution) ↔
        (i : Int) = k - (s - c) / resolution := by
  have hr' : (0 : Int) < resolution := Int.natCast_pos.mpr hr
  -- How far the frame lies behind the start of the window, as a quotient and a remainder.
  have hquotient : (s - c + (i - k) * resolution) / resolution = (s - c) / resolution + (i - k) :=
    Int.add_mul_ediv_right _ _ hr'.ne'
  have hfar : s - c + ((i : Int) - k) * resolution =
      s + i * resolution - (c + k * resolution) := by
    ring
  have hzero : (s - c + ((i : Int) - k) * resolution) / resolution = 0 ↔
      0 ≤ s - c + ((i : Int) - k) * resolution ∧
        s - c + ((i : Int) - k) * resolution < resolution := by
    rw [Int.ediv_eq_iff_of_pos hr']
    simp
  rw [hquotient, hfar] at hzero
  omega

/-- The column of a number, if there is one. -/
def columnAt (g : Grid) (i : Int) : List Nat := if 0 ≤ i ∧ i < g.width then [i.toNat] else []

theorem columnAt_eq_singleton_iff {i : Int} (hindex : index < g.width) :
    g.columnAt i = [index] ↔ i = index := by
  unfold columnAt
  split
  · rw [List.singleton_inj]
    omega
  · refine iff_of_false (List.cons_ne_nil _ _).symm ?_
    omega

/-- Of all columns the one of a number is picked out, if it is there. -/
theorem filter_range_eq (g : Grid) (i : Int) :
    (List.range g.width).filter (fun n : Nat => decide ((n : Int) = i)) = g.columnAt i := by
  unfold columnAt
  split
  · next hin =>
    obtain ⟨k, rfl⟩ := Int.eq_ofNat_of_zero_le hin.1
    have hmem : k ∈ List.range g.width := List.mem_range.mpr (by omega)
    have hone := List.count_eq_one_of_mem List.nodup_range hmem
    simp only [Int.natCast_inj, Int.toNat_natCast]
    rw [List.filter_eq, hone, List.replicate_one]
  · next hout =>
    refine List.filter_eq_nil_iff.mpr fun n hn heq => hout ?_
    have hlt := List.mem_range.mp hn
    have hsame := of_decide_eq_true heq
    omega

/-- A window as long as one column holds the first frame of one column, or of none if that would lie
before the first or behind the last. -/
theorem columnsWithin_window (hr : 0 < g.resolution) (hfit : g.FramesFit index) {c : Int}
    (hlow : firstFrame ≤ c + g.windowStart index + g.resolution)
    (hhigh : c + g.windowStart index + g.resolution ≤ lastFrame) :
    g.columnsWithin (c + g.windowStart index) g.resolution =
      g.columnAt (index - (g.startFrame - c) / g.resolution) := by
  rw [← filter_range_eq]
  refine List.filter_congr fun n hn => ?_
  rw [columnFrame_eq hfit.columnsFit (List.mem_range.mp hn), frameSum_of_fits hlow hhigh,
    ← Bool.decide_and, decide_eq_decide]
  exact in_window_iff hr g.startFrame c index n

/-- The window of a column, moved by the start frame of the grid, holds this column only. -/
theorem columnsWithin_moved (hr : 0 < g.resolution) (hfit : g.FramesFit index)
    (hindex : index < g.width) :
    g.columnsWithin (g.startFrame + g.windowStart index) g.resolution = [index] := by
  obtain ⟨hlow, hhigh⟩ := hfit.1 index hindex
  rw [columnsWithin_window hr hfit (by omega) hhigh, columnAt_eq_singleton_iff hindex,
    Int.sub_self, Int.zero_ediv, Int.sub_zero]

/-- The window itself holds the column that is as many columns earlier as the start frame takes. -/
theorem columnsWithin_unmoved (hr : 0 < g.resolution) (hfit : g.FramesFit index) :
    g.columnsWithin (g.windowStart index) g.resolution =
      g.columnAt (index - g.startFrame / g.resolution) := by
  have hlow : firstFrame ≤ 0 + g.windowStart index + g.resolution := by
    have hzero : 0 ≤ g.windowStart index :=
      Int.mul_nonneg (Int.natCast_nonneg index) (Int.natCast_nonneg g.resolution)
    unfold firstFrame
    omega
  have hhigh : 0 + g.windowStart index + g.resolution ≤ lastFrame := by
    rw [Int.zero_add]
    exact hfit.2
  have hwithin := columnsWithin_window hr hfit hlow hhigh
  rwa [Int.zero_add, Int.sub_zero] at hwithin

theorem columnsWithin_unmoved_iff (hr : 0 < g.resolution) (hfit : g.FramesFit index)
    (hindex : index < g.width) :
    g.columnsWithin (g.windowStart index) g.resolution = [index] ↔
      0 ≤ g.startFrame ∧ g.startFrame < g.resolution := by
  have hr' : (0 : Int) < g.resolution := Int.natCast_pos.mpr hr
  have hfirst : g.startFrame / g.resolution = 0 ↔
      0 ≤ g.startFrame ∧ g.startFrame < g.resolution := by
    rw [Int.ediv_eq_iff_of_pos hr']
    simp
  rw [columnsWithin_unmoved hr hfit, columnAt_eq_singleton_iff hindex, ← hfirst]
  omega

/-! ## Writes that are told of by their window -/

section Write

variable (g : Grid) (index : Nat) (values : List Single)

theorem setColumn_startFrame : (g.setColumn index values).1.startFrame = g.startFrame := by
  obtain ⟨_, _, _, _, _, h⟩ := setColumn_fst g index values
  rw [h]

theorem lt_width_setColumn : index < (g.setColumn index values).1.width := by
  rw [width, columns_setColumn, Columns.width_set]
  omega

/-- A write that leaves the extents is told of by its window, which is counted from zero. -/
theorem setColumn_window (hnotify : g.notifyOnAdd = true)
    (hmoves : g.movesExtents values = false) :
    (g.setColumn index values).2 =
      [.changedWithin (g.windowStart index) (g.windowStart index + g.resolution)] := by
  rw [movesExtents] at hmoves
  simp [setColumn, hnotify, hmoves]

end Write

/-! ## The law -/

/-- Once writes are told of at once, let one leave the extents, and let the frames fit. It is told
of by a window. The rows in that window, moved by the start frame, are just the row of the column
that was written. The rows in the window itself are those of a column that is as many columns
earlier as the start frame takes; so it names the column that was written just if the grid starts in
its first window, and it holds the frames of the column just if the grid starts at zero. -/
theorem windows_are_told_as_if_the_grid_started_at_zero (sampleRate : Double)
    (resolution bins : Nat) (notifyOnAdd : Bool) (calls : List Call) (index : Nat)
    (values : List Single) :
    let g := (empty sampleRate resolution bins notifyOnAdd).after calls
    let written := (g.setColumn index values).1
    g.notifyOnAdd = true → g.movesExtents values = false → written.FramesFit index →
    ∃ start stop, (g.setColumn index values).2 = [.changedWithin start stop] ∧
      written.rows (g.startFrame + start) (stop - start) = [written.cells index] ∧
      written.rows start (stop - start) =
        (written.columnAt (index - g.startFrame / g.resolution)).map written.cells ∧
      (written.columnsWithin start (stop - start) = [index] ↔
        0 ≤ g.startFrame ∧ g.startFrame < g.resolution) ∧
      (start = written.columnFrame index ↔ g.startFrame = 0) := by
  intro g written hnotify hmoves hfit
  have hresolution : written.resolution = g.resolution := setColumn_resolution g index values
  have hstart : written.startFrame = g.startFrame := setColumn_startFrame g index values
  have hwindow : written.windowStart index = g.windowStart index := by
    rw [windowStart, hresolution, windowStart]
  have hr : 0 < written.resolution := by
    rw [hresolution]
    exact resolution_pos_after sampleRate resolution bins notifyOnAdd calls
  have hindex : index < written.width := lt_width_setColumn g index values
  have htold := setColumn_window g index values hnotify hmoves
  -- The write leaves what the windows are counted by, so all can be said of the grid after it.
  rw [← hresolution, ← hwindow] at htold
  rw [← hresolution, ← hstart]
  refine ⟨_, _, htold, ?_⟩
  rw [add_sub_cancel_left]
  refine ⟨?_, ?_, columnsWithin_unmoved_iff hr hfit hindex, ?_⟩
  · rw [rows, columnsWithin_moved hr hfit hindex, List.map_singleton]
  · rw [rows, columnsWithin_unmoved hr hfit]
  · rw [columnFrame_eq hfit.columnsFit hindex]
    omega

/-- The grid starts in its third window, so the window of column 3 names the row of column 1. -/
theorem a_late_grid_tells_of_an_earlier_row :
    let one : Single := ⟨0x3f800000⟩
    let two : Single := ⟨0x40000000⟩
    let calls : List Call := [.setResolution 10, .setStartFrame 25, .setColumn 0 [one],
      .setColumn 1 [two], .setCompletion 100 false]
    let g := (empty ⟨0x40e5888000000000⟩ 512 1 true).after calls
    let written := (g.setColumn 3 [one]).1
    g.notifyOnAdd = true ∧ g.movesExtents [one] = false ∧ written.FramesFit 3 ∧
      (g.setColumn 3 [one]).2 = [.changedWithin 30 40] ∧
      written.rows (25 + 30) 10 = [written.cells 3] ∧ written.rows 30 10 = [written.cells 1] := by
  intro one two calls g written
  have hnotify : g.notifyOnAdd = true := by decide +kernel
  have hmoves : g.movesExtents [one] = false := by decide +kernel
  have hfit : written.FramesFit 3 := by decide +kernel
  have htold : (g.setColumn 3 [one]).2 = [.changedWithin 30 40] := by decide +kernel
  have hstart : g.startFrame = 25 := by decide +kernel
  have hearlier : written.columnAt (3 - 25 / g.resolution) = [1] := by decide +kernel
  obtain ⟨start, stop, hwindow, hmoved, hunmoved, _⟩ :=
    windows_are_told_as_if_the_grid_started_at_zero ⟨0x40e5888000000000⟩ 512 1 true calls 3 [one]
      hnotify hmoves hfit
  rw [htold] at hwindow
  cases hwindow
  rw [hstart] at hmoved hunmoved
  refine ⟨hnotify, hmoves, hfit, htold, hmoved, ?_⟩
  exact hunmoved.trans (congrArg (List.map written.cells) hearlier)

/-- The grid starts behind all of its windows as counted from zero, so none of them names a row. -/
theorem a_window_told_by_a_later_grid_names_no_row :
    let one : Single := ⟨0x3f800000⟩
    let g := (empty ⟨0x40e5888000000000⟩ 10 1 true).after [.setStartFrame 1000, .setColumn 0 [one]]
    let written := (g.setColumn 1 [one]).1
    g.notifyOnAdd = true ∧ g.movesExtents [one] = false ∧ written.FramesFit 1 ∧
      (g.setColumn 1 [one]).2 = [.changedWithin 10 20] ∧ written.rows 10 (20 - 10) = [] ∧
      written.columnFrame 1 = 1010 := by
  decide +kernel

end AudioHost.Grid
