import Mathlib.Order.Bounds.Basic
import AudioHost.Proofs.Grid.Calls

/-!
No write is lost to a listener. While the frames per column stay, each write is announced at some
time from then on, or its window is among those that wait. The windows that wait are told together,
and what is told is the least range that holds all of them.
-/

namespace AudioHost.Grid

theorem resolution_call (g : Grid) {c : Call} (h : c.setsResolution = false) :
    (g.call c).1.resolution = g.resolution := by
  cases c with
  | setColumn index values => exact setColumn_resolution g index values
  | setCompletion completion update =>
    obtain ⟨_, _, _, hcall⟩ := setCompletion_fst g completion update
    rw [call, hcall]
  | setResolution => cases h
  | _ => rfl

theorem resolution_after {calls : List Call} (h : ∀ c ∈ calls, c.setsResolution = false)
    (g : Grid) : (g.after calls).resolution = g.resolution :=
  after_induction (·.resolution = g.resolution)
    (fun t c hc ht => (resolution_call t (h c hc)).trans ht) rfl

/-! ## A write is announced, or its window waits -/

/-- The grid is in bulk, and the window of a column lies in the range that waits. -/
def Waits (g : Grid) (index : Nat) : Prop :=
  g.notifyOnAdd = false ∧ ∃ low high, g.touched = some (low, high) ∧
    low ≤ g.windowStart index ∧ g.windowStart index ≤ high

theorem touch_bounds {low high start : Int} {t : Option (Int × Int)}
    (h : touch start t = some (low, high)) : low ≤ start ∧ start ≤ high := by
  cases t <;> (cases h; omega)

theorem setColumn_announced_or_waits (g : Grid) (index : Nat) (values : List Single) :
    Announced index g.resolution (g.setColumn index values).2 ∨
      (g.setColumn index values).1.Waits index := by
  rcases hmode : g.notifyOnAdd with _ | _
  · rcases hmoves : g.movesExtents values with _ | _
    · obtain ⟨htouched, _⟩ := setColumn_waiting g index values hmode hmoves
      rcases ht : touch (g.windowStart index) g.touched with _ | ⟨low, high⟩
      · cases hg : g.touched <;> simp [touch, hg] at ht
      · refine Or.inr ⟨by simp [hmode], low, high, htouched.trans ht, ?_⟩
        simpa [windowStart] using touch_bounds ht
    · obtain ⟨_, htold⟩ := setColumn_moving g index values hmode hmoves
      exact Or.inl (announced_changed (by simp [htold]))
  · obtain ⟨n, htold, hn⟩ := setColumn_announced_at_once g index values hmode
    exact Or.inl (by rwa [htold])

/-- A window that waits is announced by the next call, or it goes on waiting. -/
theorem waits_call {g : Grid} {index : Nat} (h : g.Waits index) {c : Call}
    (hc : c.setsResolution = false) :
    Announced index g.resolution (g.call c).2 ∨ (g.call c).1.Waits index := by
  obtain ⟨hmode, low, high, htouched, hlow, hhigh⟩ := h
  -- The range holds starts, so the window would be another one under other frames per column.
  have hsame := resolution_call g hc
  rcases c.kinds with ⟨i, values, rfl⟩ | ⟨completion, update, rfl⟩ | hsetting
  · rcases hmoves : g.movesExtents values with _ | _
    · obtain ⟨hwaiting, _⟩ := setColumn_waiting g i values hmode hmoves
      rw [htouched, touch] at hwaiting
      refine Or.inr ⟨by simp [call, hmode], _, _, hwaiting, ?_⟩
      simp only [call, windowStart, setColumn_resolution] at *
      omega
    · obtain ⟨_, htold⟩ := setColumn_moving g i values hmode hmoves
      exact Or.inl (announced_changed (by simp [call, htold]))
  · rcases setCompletion_cases g completion update with
      ⟨_, hcall⟩ | ⟨_, _, hcall⟩ | ⟨l, u, _, _, _, _, hlu, hcall⟩ | ⟨_, _, _, hcall⟩
    · exact Or.inr (by rw [call, hcall]; exact ⟨hmode, low, high, htouched, hlow, hhigh⟩)
    · exact Or.inl (announced_changed (by simp [call, hcall]))
    · rw [htouched] at hlu
      cases hlu
      exact Or.inl (by rw [call, hcall]; exact announced_changedWithin hlow hhigh)
    · exact Or.inr (by rw [call, hcall]; exact ⟨hmode, low, high, htouched, hlow, hhigh⟩)
  · obtain ⟨hmode', htouched', _⟩ := setting_keeps g hsetting
    refine Or.inr ⟨hmode'.trans hmode, low, high, htouched'.trans htouched, ?_⟩
    simpa [windowStart, hsame] using ⟨hlow, hhigh⟩

theorem waits_after {calls : List Call} (hcalls : ∀ c ∈ calls, c.setsResolution = false) {g : Grid}
    {index : Nat} (h : g.Waits index) :
    Announced index g.resolution (g.told calls) ∨ (g.after calls).Waits index := by
  induction calls generalizing g with
  | nil => exact Or.inr h
  | cons c calls ih =>
    have hc := hcalls c List.mem_cons_self
    rw [told, announced_append, or_assoc]
    refine (waits_call h hc).imp_right fun hwaits => ?_
    rw [← resolution_call g hc]
    exact ih (fun d hd => hcalls d (List.mem_cons_of_mem c hd)) hwaits

/-- A write is announced by then, or its window waits. -/
theorem write_announced_or_waits (g : Grid) (index : Nat) (values : List Single) {rest : List Call}
    (hrest : ∀ c ∈ rest, c.setsResolution = false) :
    Announced index g.resolution (g.told (.setColumn index values :: rest)) ∨
      (g.after (.setColumn index values :: rest)).Waits index := by
  rw [told, announced_append, or_assoc]
  refine (setColumn_announced_or_waits g index values).imp_right fun hwaits => ?_
  rw [← setColumn_resolution g index values]
  exact waits_after hrest hwaits

/-! ## What waits -/

/-- Some starts of windows have a least and a greatest, or there are none. -/
def Spans (starts : Set Int) : Option (Int × Int) → Prop
  | none => starts = ∅
  | some (low, high) => IsLeast starts low ∧ IsGreatest starts high

/-- Touching a range adds a start to what it spans. -/
theorem spans_touch {starts : Set Int} {t : Option (Int × Int)} (h : Spans starts t)
    (start : Int) : Spans (insert start starts) (touch start t) := by
  rcases t with _ | ⟨low, high⟩
  · cases h
    simp [touch, Spans]
  · rw [touch, min_comm, max_comm]
    exact ⟨h.1.insert start, h.2.insert start⟩

/-- The first frames of the windows of some columns. -/
def starts (resolution : Nat) (places : List Nat) : Set Int :=
  {frame | ∃ i ∈ places, frame = (i : Int) * resolution}

/-- The frames after the windows of some columns. -/
def stops (resolution : Nat) (places : List Nat) : Set Int :=
  {frame | ∃ i ∈ places, frame = ((i : Int) + 1) * resolution}

theorem starts_snoc (resolution : Nat) (places : List Nat) (index : Nat) :
    starts resolution (places ++ [index]) =
      insert ((index : Int) * resolution) (starts resolution places) := by
  ext frame
  simp [starts, or_and_right, exists_or, or_comm]

theorem starts_eq_empty {resolution : Nat} {places : List Nat} :
    starts resolution places = ∅ ↔ places = [] := by
  constructor
  · intro h
    refine List.eq_nil_iff_forall_not_mem.mpr fun i hi => ?_
    have hmem : (i : Int) * resolution ∈ starts resolution places := ⟨i, hi, rfl⟩
    rw [h] at hmem
    exact hmem
  · rintro rfl
    simp [starts]

theorem isGreatest_stops {resolution : Nat} {places : List Nat} {high : Int}
    (h : IsGreatest (starts resolution places) high) :
    IsGreatest (stops resolution places) (high + resolution) := by
  obtain ⟨⟨i, hi, rfl⟩, hupper⟩ := h
  refine ⟨⟨i, hi, (window_stop i resolution).symm⟩, ?_⟩
  rintro _ ⟨j, hj, rfl⟩
  have := hupper ⟨j, hj, rfl⟩
  rw [window_stop]
  omega

/-- The notice is of a range of frames. -/
def Notice.isRange : Notice → Bool
  | .changedWithin .. => true
  | _ => false

/-- The columns written since a write last moved the extents or a report of progress last announced
a range, after one more call. -/
def writtenAfter (g : Grid) (places : List Nat) : Call → List Nat
  | .setColumn index values => if g.movesExtents values then [] else places ++ [index]
  | .setCompletion completion update =>
    if (g.setCompletion completion update).2.any Notice.isRange then [] else places
  | _ => places

theorem writtenAfter_setting (g : Grid) (places : List Nat) {c : Call} (h : c.isSetting = true) :
    g.writtenAfter places c = places := by
  cases c with
  | setColumn | setCompletion => cases h
  | _ => rfl

/-- The columns that a run has written since a write last moved the extents or a report of progress
last announced a range. Those of `places` were written before the run. -/
def writtenSince (g : Grid) (places : List Nat) : List Call → List Nat
  | [] => places
  | c :: calls => (g.call c).1.writtenSince (g.writtenAfter places c) calls

/-- In bulk the range that waits is spanned by the windows of some columns. -/
def Gathers (g : Grid) (places : List Nat) : Prop :=
  g.notifyOnAdd = false → Spans (starts g.resolution places) g.touched

theorem gathers_call {g : Grid} {places : List Nat} (h : g.Gathers places) {c : Call}
    (hc : c.setsResolution = false) : (g.call c).1.Gathers (g.writtenAfter places c) := by
  -- The columns and the range are emptied in the same cases, and but for those both only grow.
  have hsame := resolution_call g hc
  rcases c.kinds with ⟨index, values, rfl⟩ | ⟨completion, update, rfl⟩ | hsetting
  · intro hmode
    rw [call, setColumn_notifyOnAdd] at hmode
    rw [hsame, call, writtenAfter]
    rcases hmoves : g.movesExtents values with _ | _
    · rw [(setColumn_waiting g index values hmode hmoves).1, if_neg Bool.false_ne_true, starts_snoc]
      exact spans_touch (h hmode) _
    · rw [(setColumn_moving g index values hmode hmoves).1, if_pos rfl]
      exact starts_eq_empty.mpr rfl
  · rw [call, writtenAfter]
    rcases setCompletion_cases g completion update with
      ⟨_, hcall⟩ | ⟨_, _, hcall⟩ | ⟨_, _, _, _, _, _, _, hcall⟩ | ⟨_, _, _, hcall⟩
    · rw [hcall]
      exact h
    · rw [hcall]
      exact fun hmode => absurd hmode Bool.noConfusion
    · rw [hcall]
      exact fun _ => starts_eq_empty.mpr rfl
    · rw [hcall]
      exact h
  · obtain ⟨hmode, htouched, _⟩ := setting_keeps g hsetting
    intro hbulk
    rw [hsame, htouched, writtenAfter_setting g places hsetting]
    exact h (hmode.symm.trans hbulk)

theorem gathers_after {calls : List Call} (hcalls : ∀ c ∈ calls, c.setsResolution = false)
    {g : Grid} {places : List Nat} (h : g.Gathers places) :
    (g.after calls).Gathers (g.writtenSince places calls) := by
  induction calls generalizing g places with
  | nil => exact h
  | cons c calls ih =>
    exact ih (fun d hd => hcalls d (List.mem_cons_of_mem c hd))
      (gathers_call h (hcalls c List.mem_cons_self))

/-- A report of progress announces a range just if the windows of some columns wait and it is asked
to announce them, and the range is that of the windows. -/
theorem setCompletion_range {g : Grid} {places : List Nat} (h : g.Gathers places)
    (completion : Nat) (update : Bool) :
    (∀ low high, .changedWithin low high ∈ (g.setCompletion completion update).2 →
      IsLeast (starts g.resolution places) low ∧ IsGreatest (stops g.resolution places) high) ∧
    ((∃ low high, .changedWithin low high ∈ (g.setCompletion completion update).2) ↔
      g.notifyOnAdd = false ∧ update = true ∧ completion < 100 ∧ g.completion ≠ completion ∧
        places ≠ []) := by
  rcases setCompletion_cases g completion update with
    ⟨hknown, hcall⟩ | ⟨_, hend, hcall⟩ | ⟨l, u, hne, hlt, hmode, hupdate, htouched, hcall⟩ |
    ⟨hne, hlt, hnone, hcall⟩
  · rw [hcall]
    refine ⟨by simp, iff_of_false (by simp) ?_⟩
    rintro ⟨_, _, hlt, hne, _⟩
    omega
  · rw [hcall]
    refine ⟨by simp, iff_of_false (by simp) ?_⟩
    rintro ⟨_, _, hlt, _⟩
    omega
  · have hspans := h hmode
    rw [htouched] at hspans
    rw [hcall]
    constructor
    · intro low high hmem
      cases List.mem_singleton.mp hmem
      exact ⟨hspans.1, isGreatest_stops hspans.2⟩
    · refine iff_of_true ⟨_, _, List.mem_singleton_self _⟩ ⟨hmode, hupdate, hlt, hne, ?_⟩
      rintro rfl
      obtain ⟨_, hi, _⟩ := hspans.1.1
      cases hi
  · -- Nothing waits in bulk, so by what the range spans there are no columns to tell of.
    rw [hcall]
    refine ⟨by simp, iff_of_false (by simp) ?_⟩
    rintro ⟨hmode, rfl, _, _, hplaces⟩
    have htouched : g.touched = none := by simpa [hmode] using hnone
    have hspans := h hmode
    rw [htouched] at hspans
    exact hplaces (starts_eq_empty.mp hspans)

/-! ## The law -/

/-- In any run that leaves the frames per column as they are, each write is announced at some time
from then on, or the grid is in bulk and the window lies in the range that waits. A report of
progress announces a range just if the grid is in bulk, the report is new and below the end and is
asked to, and a column was written since the extents moved or a range was announced last. The range
goes from the least start to the greatest stop of the windows of all such columns. -/
theorem every_write_is_announced_or_waits (sampleRate : Double) (resolution bins : Nat)
    (notifyOnAdd : Bool) (calls : List Call) (h : ∀ c ∈ calls, c.setsResolution = false) :
    let start := empty sampleRate resolution bins notifyOnAdd
    let g := start.after calls
    (∀ before index values rest, calls = before ++ .setColumn index values :: rest →
      Announced index g.resolution
          ((start.after before).told (.setColumn index values :: rest)) ∨
        g.Waits index) ∧
    ∀ completion update,
      (∀ low high, .changedWithin low high ∈ (g.setCompletion completion update).2 →
        IsLeast (starts g.resolution (start.writtenSince [] calls)) low ∧
          IsGreatest (stops g.resolution (start.writtenSince [] calls)) high) ∧
      ((∃ low high, .changedWithin low high ∈ (g.setCompletion completion update).2) ↔
        g.notifyOnAdd = false ∧ update = true ∧ completion < 100 ∧ g.completion ≠ completion ∧
          start.writtenSince [] calls ≠ []) := by
  intro start g
  refine ⟨?_, setCompletion_range (gathers_after h fun _ => starts_eq_empty.mpr rfl)⟩
  rintro before index values rest rfl
  have hrest : ∀ c ∈ rest, c.setsResolution = false := fun c hc =>
    h c (List.mem_append_right _ (List.mem_cons_of_mem _ hc))
  have hbefore : ∀ c ∈ before, c.setsResolution = false := fun c hc =>
    h c (List.mem_append_left _ hc)
  have hsame : g.resolution = (start.after before).resolution :=
    (resolution_after h start).trans (resolution_after hbefore start).symm
  have hwrite := write_announced_or_waits (start.after before) index values hrest
  rwa [← after_append, ← hsame] at hwrite

/-- The first column moves the extents, the next two wait, and they are told together. -/
theorem two_waiting_windows_are_told_together :
    let one : Single := ⟨0x3f800000⟩
    let two : Single := ⟨0x40000000⟩
    let start := empty ⟨0x40e5888000000000⟩ 10 2 false
    let calls : List Call := [.setColumn 0 [.zero, two], .setColumn 3 [one, two],
      .setColumn 1 [one, two]]
    (∀ c ∈ calls, c.setsResolution = false) ∧
      start.writtenSince [] calls = [3, 1] ∧
      ((start.after calls).setCompletion 40 true).2 = [.changedWithin 10 40] ∧
      IsLeast (starts 10 [3, 1]) 10 ∧ IsGreatest (stops 10 [3, 1]) 40 ∧
      (start.after calls).Waits 3 := by
  intro one two start calls
  have hcalls : ∀ c ∈ calls, c.setsResolution = false := by decide
  have hsince : start.writtenSince [] calls = [3, 1] := by
    simp only [start, calls, one, two]
    decide +kernel
  have htold : ((start.after calls).setCompletion 40 true).2 = [.changedWithin 10 40] := by
    simp only [start, calls, one, two]
    decide +kernel
  obtain ⟨hwrites, hranges⟩ :=
    every_write_is_announced_or_waits ⟨0x40e5888000000000⟩ 10 2 false calls hcalls
  have hmem : .changedWithin 10 40 ∈ ((start.after calls).setCompletion 40 true).2 := by
    rw [htold]
    exact List.mem_singleton_self _
  have hrange := (hranges 40 true).1 10 40 hmem
  rw [hsince, resolution_after hcalls] at hrange
  have hquiet : (start.after [.setColumn 0 [.zero, two]]).told
      [.setColumn 3 [one, two], .setColumn 1 [one, two]] = [] := by
    simp only [start, one, two]
    decide +kernel
  have hwaits := hwrites [.setColumn 0 [.zero, two]] 3 [one, two] [.setColumn 1 [one, two]] rfl
  refine ⟨hcalls, hsince, htold, hrange.1, hrange.2, hwaits.resolve_left ?_⟩
  rintro ⟨n, hn, _⟩
  rw [hquiet] at hn
  cases hn

end AudioHost.Grid
