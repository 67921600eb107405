import AudioHost.Proofs.Grid.Calls

/-!
The extents of a grid over a whole history of calls. They are finite values that were written and
bound all finite values that were ever written, also those that were overwritten since.
-/

namespace AudioHost

namespace Single

theorem lt_irrefl (x : Single) : x.lt x = false := by
  unfold lt
  simp

theorem lt_trans {x y z : Single} (h : x.lt y = true) (h' : y.lt z = true) : x.lt z = true := by
  unfold lt at *
  simp only [Bool.and_eq_true, Bool.not_eq_true', decide_eq_true_eq] at *
  exact ⟨⟨h.1.1, h'.1.2⟩, by omega⟩

end Single

namespace Grid

namespace Extents

variable {e : Extents} {v w : Single}

/-! ## One more value -/

/-- A value is the first one, or it lies strictly outside of the extents. -/
def Outside (e : Extents) (v : Single) : Prop :=
  e.known = false ∨ v.lt e.minimum = true ∨ e.maximum.lt v = true

theorem widen_of_not_outside (h : ¬ e.Outside v) : e.widen v = e := by
  obtain ⟨low, high, known, moved⟩ := e
  unfold Outside at h
  simp only [not_or, Bool.not_eq_false, Bool.not_eq_true] at h
  unfold widen
  simp [h]

theorem minimum_widen (e : Extents) (v : Single) :
    ((e.widen v).minimum = v ∧ (e.known = false ∨ v.lt e.minimum = true)) ∨
      ((e.widen v).minimum = e.minimum ∧ e.known = true ∧ v.lt e.minimum = false) := by
  unfold widen
  by_cases hknown : e.known = true
  · by_cases hbelow : v.lt e.minimum = true
    · simp [hbelow]
    · simp [hknown, hbelow]
  · simp [hknown]

theorem maximum_widen (e : Extents) (v : Single) :
    ((e.widen v).maximum = v ∧ (e.known = false ∨ e.maximum.lt v = true)) ∨
      ((e.widen v).maximum = e.maximum ∧ e.known = true ∧ e.maximum.lt v = false) := by
  unfold widen
  by_cases hknown : e.known = true
  · by_cases habove : e.maximum.lt v = true
    · simp [habove]
    · simp [hknown, habove]
  · simp [hknown]

theorem moved_widen (e : Extents) (v : Single) :
    (e.widen v).moved = true ↔ e.moved = true ∨ e.Outside v := by
  unfold widen Outside
  simp only [Bool.or_eq_true, Bool.not_eq_true']
  constructor
  · rintro ((hmoved | hunknown | hbelow) | hunknown | habove)
    · exact Or.inl hmoved
    · exact Or.inr (Or.inl hunknown)
    · exact Or.inr (Or.inr (Or.inl hbelow))
    · exact Or.inr (Or.inl hunknown)
    · exact Or.inr (Or.inr (Or.inr habove))
  · rintro (hmoved | hunknown | hbelow | habove)
    · exact Or.inl (Or.inl hmoved)
    · exact Or.inr (Or.inl hunknown)
    · exact Or.inl (Or.inr (Or.inr hbelow))
    · exact Or.inr (Or.inr habove)

/-- A run of values moves the extents just if one of them lies outside of what they were before. -/
theorem moved_foldl (e : Extents) (values : List Single) :
    (values.foldl widen e).moved = true ↔ e.moved = true ∨ ∃ v ∈ values, e.Outside v := by
  induction values generalizing e with
  | nil => simp
  | cons v values ih =>
    rw [List.foldl_cons, ih, moved_widen]
    by_cases hv : e.Outside v
    · simp [hv]
    · simp [hv, widen_of_not_outside hv]

/-! ## All values so far -/

/-- Extents are those of some values: they are among the values and bound all of them. Of no values
nothing is known, and both ends are zero. -/
structure Spans (e : Extents) (seen : List Single) : Prop where
  known : e.known = true ↔ seen ≠ []
  zero : seen = [] → e.minimum = .zero ∧ e.maximum = .zero
  low : seen ≠ [] → e.minimum ∈ seen
  high : seen ≠ [] → e.maximum ∈ seen
  below : ∀ v ∈ seen, v.lt e.minimum = false
  above : ∀ v ∈ seen, e.maximum.lt v = false

variable {seen : List Single}

theorem Spans.known_of_mem (h : e.Spans seen) (hw : w ∈ seen) : e.known = true :=
  h.known.mpr (List.ne_nil_of_mem hw)

theorem spans_widen (h : e.Spans seen) (v : Single) : (e.widen v).Spans (seen ++ [v]) where
  known := by simp [widen]
  zero := by simp
  low := by
    intro _
    rcases minimum_widen e v with ⟨hmin, _⟩ | ⟨hmin, hknown, _⟩
    · simp [hmin]
    · rw [hmin]
      exact List.mem_append_left _ (h.low (h.known.mp hknown))
  high := by
    intro _
    rcases maximum_widen e v with ⟨hmax, _⟩ | ⟨hmax, hknown, _⟩
    · simp [hmax]
    · rw [hmax]
      exact List.mem_append_left _ (h.high (h.known.mp hknown))
  below := by
    intro w hw
    rw [List.mem_append, List.mem_singleton] at hw
    rcases minimum_widen e v with ⟨hmin, hnew⟩ | ⟨hmin, _, hinside⟩
    · rw [hmin]
      rcases hw with hw | rfl
      · -- What is smaller than the new value is smaller than what bounded it so far.
        have hbelow : v.lt e.minimum = true := by simpa [h.known_of_mem hw] using hnew
        refine Bool.eq_false_iff.mpr fun hlt => ?_
        exact Bool.eq_false_iff.mp (h.below w hw) (Single.lt_trans hlt hbelow)
      · exact w.lt_irrefl
    · rw [hmin]
      rcases hw with hw | rfl
      · exact h.below w hw
      · exact hinside
  above := by
    intro w hw
    rw [List.mem_append, List.mem_singleton] at hw
    rcases maximum_widen e v with ⟨hmax, hnew⟩ | ⟨hmax, _, hinside⟩
    · rw [hmax]
      rcases hw with hw | rfl
      · have habove : e.maximum.lt v = true := by simpa [h.known_of_mem hw] using hnew
        refine Bool.eq_false_iff.mpr fun hlt => ?_
        exact Bool.eq_false_iff.mp (h.above w hw) (Single.lt_trans habove hlt)
      · exact w.lt_irrefl
    · rw [hmax]
      rcases hw with hw | rfl
      · exact h.above w hw
      · exact hinside

theorem spans_foldl (h : e.Spans seen) (values : List Single) :
    (values.foldl widen e).Spans (seen ++ values) := by
  induction values generalizing e seen with
  | nil => rwa [List.append_nil]
  | cons v values ih =>
    have hrest := ih (spans_widen h v)
    rwa [List.append_assoc, List.singleton_append] at hrest

theorem spans_widenAll (h : e.Spans seen) (values : List Single) :
    (e.widenAll values).Spans (seen ++ values.filter Single.isFinite) := by
  unfold widenAll
  exact spans_foldl h _

end Extents

/-! ## Histories -/

/-- The finite values that a call writes. -/
def Call.finiteValues : Call → List Single
  | .setColumn _ values => values.filter Single.isFinite
  | _ => []

/-- All finite values that some calls write, in order. -/
def finiteWritten (calls : List Call) : List Single := calls.flatMap Call.finiteValues

/-- A call sets none of the levels. -/
def Call.leavesLevels : Call → Bool
  | .setMinimum _ | .setMaximum _ => false
  | _ => true

variable {g : Grid} {seen : List Single}

theorem extents_setColumn (g : Grid) (index : Nat) (values : List Single) :
    (g.setColumn index values).1.extents = { g.extents.widenAll values with moved := false } := by
  unfold setColumn
  dsimp only
  split
  · rfl
  · split <;> rfl

theorem extents_setCompletion (g : Grid) (completion : Nat) (update : Bool) :
    (g.setCompletion completion update).1.extents = g.extents := by
  obtain ⟨_, _, _, h⟩ := setCompletion_fst g completion update
  rw [h]
  rfl

theorem spans_moved {e : Extents} (h : e.Spans seen) (moved : Bool) :
    ({ e with moved } : Extents).Spans seen :=
  ⟨h.known, h.zero, h.low, h.high, h.below, h.above⟩

theorem spans_call (h : g.extents.Spans seen) {c : Call} (hc : c.leavesLevels = true) :
    (g.call c).1.extents.Spans (seen ++ c.finiteValues) := by
  cases c with
  | setColumn index values =>
    show (g.setColumn index values).1.extents.Spans _
    rw [extents_setColumn]
    exact spans_moved (Extents.spans_widenAll h values) false
  | setCompletion completion update =>
    show (g.setCompletion completion update).1.extents.Spans (seen ++ [])
    rw [extents_setCompletion, List.append_nil]
    exact h
  | setMinimum | setMaximum => cases hc
  | _ =>
    show g.extents.Spans (seen ++ [])
    rw [List.append_nil]
    exact h

theorem spans_after (h : g.extents.Spans seen) {calls : List Call}
    (hcalls : ∀ c ∈ calls, c.leavesLevels = true) :
    (g.after calls).extents.Spans (seen ++ finiteWritten calls) := by
  induction calls generalizing g seen with
  | nil => rwa [finiteWritten, List.flatMap_nil, List.append_nil]
  | cons c calls ih =>
    rw [List.forall_mem_cons] at hcalls
    rw [after_cons, finiteWritten, List.flatMap_cons, ← List.append_assoc]
    exact ih (spans_call h hcalls.1) hcalls.2

theorem spans_empty (sampleRate : Double) (resolution bins : Nat) (notifyOnAdd : Bool) :
    (empty sampleRate resolution bins notifyOnAdd).extents.Spans [] := by
  constructor <;> simp [empty, extents]

/-- A write tells of everything just if it moves the extents. -/
theorem changed_mem_setColumn_iff (g : Grid) (index : Nat) (values : List Single) :
    .changed ∈ (g.setColumn index values).2 ↔ g.movesExtents values = true := by
  unfold setColumn movesExtents
  by_cases hnotify : g.notifyOnAdd = true
  · by_cases hmoved : (g.extents.widenAll values).moved = true
    · simp [hnotify, hmoved]
    · simp [hnotify, hmoved]
  · by_cases hmoved : (g.extents.widenAll values).moved = true
    · simp [hnotify, hmoved]
    · simp [hnotify, hmoved]

/-! ## The law -/

/-- Let no call of a run set the levels. Then they are finite values that were written and bound all
finite values that were, and both are zero while there are none. More calls only widen them. The
next write tells of everything just if it writes the first finite value of all, or one that lies
strictly outside of the levels. -/
theorem the_levels_bound_all_that_was_ever_written (sampleRate : Double) (resolution bins : Nat)
    (notifyOnAdd : Bool) (calls : List Call) (h : ∀ c ∈ calls, c.leavesLevels = true) :
    let g := (empty sampleRate resolution bins notifyOnAdd).after calls
    let seen := finiteWritten calls
    (seen = [] → g.minimum = .zero ∧ g.maximum = .zero) ∧
    (seen ≠ [] → g.minimum ∈ seen ∧ g.maximum ∈ seen) ∧
    (∀ v ∈ seen, v.isFinite = true ∧ v.lt g.minimum = false ∧ g.maximum.lt v = false) ∧
    (∀ more : List Call, (∀ c ∈ more, c.leavesLevels = true) → seen ≠ [] →
      g.minimum.lt (g.after more).minimum = false ∧
        (g.after more).maximum.lt g.maximum = false) ∧
    ∀ index values, .changed ∈ (g.setColumn index values).2 ↔
      ∃ v ∈ values, v.isFinite = true ∧
        (seen = [] ∨ v.lt g.minimum = true ∨ g.maximum.lt v = true) := by
  intro g seen
  have hspans : g.extents.Spans seen := by
    have hafter := spans_after (spans_empty sampleRate resolution bins notifyOnAdd) h
    rwa [List.nil_append] at hafter
  refine ⟨hspans.zero, fun hsome => ⟨hspans.low hsome, hspans.high hsome⟩, ?_, ?_, ?_⟩
  · intro v hv
    obtain ⟨c, _, hc⟩ := List.mem_flatMap.mp hv
    refine ⟨?_, hspans.below v hv, hspans.above v hv⟩
    cases c with
    | setColumn index values => exact (List.mem_filter.mp hc).2
    | _ => cases hc
  · intro more hmore hsome
    -- The levels so far are among the values that the later ones bound.
    have hlater := spans_after hspans hmore
    exact ⟨hlater.below _ (List.mem_append_left _ (hspans.low hsome)),
      hlater.above _ (List.mem_append_left _ (hspans.high hsome))⟩
  · intro index values
    have hunknown : g.extents.known = false ↔ seen = [] := by
      rw [← Bool.not_eq_true, hspans.known, ne_eq, Decidable.not_not]
    rw [changed_mem_setColumn_iff, movesExtents, Extents.widenAll, Extents.moved_foldl]
    simp only [Extents.Outside, hunknown, List.mem_filter, and_assoc]
    simp [extents]

/-- A column with a NaN is written, then overwritten with smaller and larger values, and at last
with an infinity and a zero. -/
theorem the_levels_remember_overwritten_values :
    let one : Single := ⟨0x3f800000⟩
    let two : Single := ⟨0x40000000⟩
    let calls : List Call := [.setColumn 0 [.nan], .setColumn 0 [two], .setColumn 0 [one, .nan],
      .setColumn 0 [⟨0x7f800000⟩, one]]
    let g := (empty ⟨0⟩ 10 2 false).after calls
    (∀ c ∈ calls, c.leavesLevels = true) ∧ finiteWritten calls = [two, one, one] ∧
      g.minimum ∈ [two, one, one] ∧ two.lt g.minimum = false ∧ g.maximum.lt two = false ∧
      .changed ∈ (g.setColumn 7 [.nan, .zero]).2 := by
  intro one two calls g
  have hcalls : ∀ c ∈ calls, c.leavesLevels = true := by decide
  have hseen : finiteWritten calls = [two, one, one] := by decide
  obtain ⟨_, hmem, hbounds, _, hchanged⟩ :=
    the_levels_bound_all_that_was_ever_written ⟨0⟩ 10 2 false calls hcalls
  rw [hseen] at hmem hbounds hchanged
  refine ⟨hcalls, hseen, (hmem (by decide)).1, (hbounds two (by decide)).2.1,
    (hbounds two (by decide)).2.2, (hchanged 7 [.nan, .zero]).mpr ?_⟩
  exact ⟨.zero, by decide, by decide, by decide⟩

end Grid

end AudioHost
