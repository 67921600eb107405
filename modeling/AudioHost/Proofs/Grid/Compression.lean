import Mathlib.Algebra.GroupWithZero.Nat
import Mathlib.Algebra.Order.BigOperators.Group.List
import Mathlib.Algebra.Order.Group.Nat
import Mathlib.Order.Bounds.Basic
import AudioHost.Proofs.Grid.Contents

/-!
How much is kept of columns. At one height a column that refers to another one lacks the longest run
that the two of them share at its side, as they read now, whatever was written since. So no column
takes more room than the values that were written.
-/

namespace AudioHost.Grid

variable {side : Side} {known : Option Side} {xs ys part values reference kept : List Single}

/-! ## The longest shared run -/

/-- A run of values stands at a side of a column. -/
def StandsAt (side : Side) (part values : List Single) : Prop :=
  match side with
  | .leading => part <+: values
  | .trailing => part <:+ values

/-- The longest run that stands at a side of both columns has `n` values. -/
def LongestShared (side : Side) (xs ys : List Single) (n : Nat) : Prop :=
  IsGreatest {k | ∃ part, StandsAt side part xs ∧ StandsAt side part ys ∧ part.length = k} n

theorem length_le_commonRun (hx : part <+: xs) (hy : part <+: ys) :
    part.length ≤ commonRun xs ys := by
  obtain ⟨xs, rfl⟩ := hx
  obtain ⟨ys, rfl⟩ := hy
  induction part with
  | nil => exact Nat.zero_le _
  | cons v part ih =>
    rw [List.cons_append, List.cons_append, commonRun, if_pos rfl, List.length_cons]
    exact Nat.succ_le_succ ih

theorem longestShared_commonRun (xs ys : List Single) :
    LongestShared .leading xs ys (commonRun xs ys) := by
  refine ⟨⟨xs.take (commonRun xs ys), List.take_prefix _ xs, ?_, ?_⟩, ?_⟩
  · rw [take_commonRun]
    exact List.take_prefix _ ys
  · rw [List.length_take, Nat.min_eq_left (commonRun_le_left xs ys)]
  · rintro _ ⟨part, hx, hy, rfl⟩
    exact length_le_commonRun hx hy

theorem longestShared_commonTail (xs ys : List Single) :
    LongestShared .trailing xs ys (commonTail xs ys) := by
  refine ⟨⟨xs.drop (xs.length - commonTail xs ys), List.drop_suffix _ xs, ?_, ?_⟩, ?_⟩
  · rw [drop_commonTail]
    exact List.drop_suffix _ ys
  · have := commonTail_le_left xs ys
    rw [List.length_drop]
    omega
  · -- Read backwards, a run at the end is one at the front.
    rintro _ ⟨part, hx, hy, rfl⟩
    rw [← List.length_reverse]
    exact length_le_commonRun (List.reverse_prefix.mpr hx) (List.reverse_prefix.mpr hy)

/-- The side that is chosen is the known one if there is one. -/
theorem chosenSide_known (known : Option Side) (values reference : List Single) :
    known = none ∨ known = some (chosenSide known values reference) := by
  cases known with
  | none => exact Or.inl rfl
  | some side => exact Or.inr rfl

theorem longestShared_sharedRun (h : known = none ∨ known = some side)
    (values reference : List Single) :
    LongestShared side values reference (sharedRun known side values reference) := by
  unfold sharedRun
  rw [if_pos h]
  cases side with
  | leading => exact longestShared_commonRun values reference
  | trailing => exact longestShared_commonTail values reference

/-! ## What a column lacks -/

/-- What is kept of some values lacks the longest run that they share with a reference at a side,
and the run is longer than a quarter of them. -/
def Tight (side : Side) (kept values reference : List Single) : Prop :=
  ∃ run, LongestShared side values reference run ∧ values.length / 4 < run ∧
    kept.length + run = values.length

theorem tight_against {back back' : Nat}
    (h : Column.against known back values reference = ⟨kept, .dropped side back'⟩) :
    back' = back ∧ Tight side kept values reference := by
  have hshared := longestShared_sharedRun (chosenSide_known known values reference) values reference
  have hle := sharedRun_le known (chosenSide known values reference) values reference
  unfold Column.against at h
  dsimp only at h
  split at h
  · next hlong =>
    generalize chosenSide known values reference = chosen at *
    cases chosen with
    | leading =>
      cases h
      refine ⟨rfl, _, hshared, hlong, ?_⟩
      rw [List.length_drop]
      omega
    | trailing =>
      cases h
      refine ⟨rfl, _, hshared, hlong, ?_⟩
      rw [List.length_take]
      omega
  · cases h

namespace Columns

variable {s t : Columns} {f : Nat → List Single}

/-- A new column that drops a run has the height and lacks the longest run that it shares with what
its reference reads as. -/
theorem tight_truncate {index back : Nat}
    (h : s.truncate index values = ⟨kept, .dropped side back⟩) :
    values.length = s.height ∧ Grid.Tight side kept values (s.expand (index - back)) := by
  unfold truncate at h
  split at h
  · cases h
  · next hfirst =>
    rw [not_or, Decidable.not_not] at hfirst
    dsimp only at h
    split at h
    · cases h
    · split at h
      · cases h
      · obtain ⟨rfl, htight⟩ := tight_against h
        exact ⟨hfirst.2, htight⟩

/-- Each column that refers to another one lacks the longest run that they share. -/
def Tight (s : Columns) : Prop :=
  ∀ i kept side back, s.columns[i]? = some ⟨kept, .dropped side back⟩ →
    Grid.Tight side kept (s.expand i) (s.expand (i - back))

/-- References that were there before, between columns that read as before, are as tight. -/
theorem Tight.carry (h : s.Tight)
    (hsame : ∀ i kept side back, t.columns[i]? = some ⟨kept, .dropped side back⟩ →
      s.columns[i]? = some ⟨kept, .dropped side back⟩ ∧ t.expand i = s.expand i ∧
        t.expand (i - back) = s.expand (i - back)) : t.Tight := by
  intro i kept side back hc
  obtain ⟨hold, hexpand, hreference⟩ := hsame i kept side back hc
  rw [hexpand, hreference]
  exact h i kept side back hold

theorem tight_empty (height : Nat) : (empty height).Tight := by
  intro i kept side back hc
  simp [empty] at hc

theorem tight_detachOne (hs : s.Holds f) (h : s.Tight) (index later : Nat) :
    (s.detachOne index later).Tight := by
  refine h.carry fun i kept side back hc => ?_
  rw [getElem?_detachOne, Option.map_eq_some_iff] at hc
  obtain ⟨old, hold, heq⟩ := hc
  split at heq
  · cases heq
  · subst heq
    have hi := lt_width hold
    exact ⟨hold, expand_detachOne hs.sound index later (hs.length_expand hi),
      expand_detachOne hs.sound index later (hs.length_expand (by omega))⟩

theorem tight_detach (hs : s.Holds f) (h : s.Tight) (index : Nat) : (s.detach index).Tight := by
  unfold detach
  generalize List.range' (index + 1) maxBack = places
  induction places generalizing s with
  | nil => exact h
  | cons later places ih =>
    exact ih (holds_detachOne hs index later) (tight_detachOne hs h index later)

theorem tight_grow (hs : s.Holds f) (h : s.Tight) (index : Nat) : (s.grow index).Tight := by
  refine h.carry fun i kept side back hc => ?_
  by_cases hi : i < s.width
  · rw [getElem?_grow_of_lt index hi] at hc
    exact ⟨hc, expand_grow hs.sound index hi, expand_grow hs.sound index (by omega)⟩
  · cases getElem?_grow_of_ge (Nat.not_lt.mp hi) hc

theorem tight_ready (hs : s.Holds f) (h : s.Tight) (index : Nat) : (s.ready index).Tight := by
  unfold ready
  split
  · exact tight_detach hs h index
  · exact tight_grow hs h index

/-- A write leaves every reference tight. The new column is measured as it is written, and no other
column refers to its place any more. -/
theorem tight_set (hs : s.Holds f) (h : s.Tight) (index : Nat) (values : List Single) :
    (s.set index values).Tight := by
  have hsound := sound_ready hs.sound index
  intro i kept side back hc
  by_cases hi : i = index
  · subst hi
    obtain ⟨hback, _, hle, _⟩ := sound_set hs.sound i values i _ hc side back rfl
    rw [getElem?_set_self, Option.some.injEq] at hc
    obtain ⟨hlength, htight⟩ := tight_truncate hc
    rw [height_ready] at hlength
    rw [expand_set_self hs.sound, resize_of_length hlength,
      expand_set_ready hs.sound (by omega : i - back ≠ i)]
    exact htight
  · rw [getElem?_set_of_ne s hi] at hc
    have hle := (hsound i _ hc side back rfl).2.2.1
    have hapart := unreferred_ready hs.sound index i _ side back hc rfl
    rw [expand_set_ready hs.sound hi, expand_set_ready hs.sound (by omega : i - back ≠ index)]
    exact tight_ready hs h index i kept side back hc

theorem tight_run (height : Nat) {acts : List Act} (h : AtOneHeight acts) :
    (run height acts).Tight := by
  induction acts using List.reverseRecOn with
  | nil => exact tight_empty height
  | append_singleton acts a ih =>
    have hbefore : AtOneHeight acts := fun new hmem => h new (List.mem_append_left _ hmem)
    have hholds := (holds_run height hbefore).1
    rw [run_snoc]
    cases a with
    | set index values => exact tight_set hholds (ih hbefore) index values
    | clear => exact tight_empty _
    | setHeight new => exact absurd List.mem_concat_self (h new)

/-! ## Room -/

/-- No more is kept of a column than the values that it holds. -/
theorem Holds.length_values_le (hs : s.Holds f) (h : s.Tight) {i : Nat} {c : Column}
    (hc : s.columns[i]? = some c) : c.values.length ≤ (f i).length := by
  rcases hs.column i c hc with rfl | ⟨hdropped, _, hexpand⟩
  · exact Nat.le_refl _
  · obtain ⟨kept, _ | ⟨side, back⟩⟩ := c
    · exact absurd rfl hdropped
    · obtain ⟨run, _, _, hlength⟩ := h i kept side back hc
      rw [hexpand] at hlength
      exact Nat.le.intro hlength

theorem storedTotal_eq_sum (s : Columns) :
    s.storedTotal = (s.columns.map fun c => c.values.length).sum := by
  unfold storedTotal
  induction s.columns with
  | nil => rfl
  | cons c columns ih => rw [List.foldr_cons, ih, List.map_cons, List.sum_cons]

theorem Holds.storedTotal_le (hs : s.Holds f) (h : s.Tight) :
    s.storedTotal ≤ ((List.range s.width).map fun i => (f i).length).sum := by
  rw [storedTotal_eq_sum]
  apply List.Forall₂.sum_le_sum
  rw [List.forall₂_iff_get]
  refine ⟨by simp [width], fun i hi hi' => ?_⟩
  rw [List.length_map] at hi
  simpa using hs.length_values_le h (List.getElem?_eq_getElem hi)

end Columns

/-! ## The law -/

/-- After any run of writes at one height, a column that refers to another one keeps just what is
left of it without the longest run that the two columns share at its side, as they read now, and the
run is longer than a quarter of the height. Every column keeps at most as many values as were
written there last, and so do all of them together. -/
theorem what_is_kept_lacks_the_longest_shared_run (height : Nat) (acts : List Act)
    (h : AtOneHeight acts) :
    let s := Columns.run height acts
    (∀ i side back, s.truncation i = some (.dropped side back) →
      ∃ column reference run stored, s.get i = some column ∧ back ≤ i ∧
        s.get (i - back) = some reference ∧ LongestShared side column reference run ∧
        height / 4 < run ∧ s.storedLength i = some stored ∧ stored + run = height) ∧
    (∀ i stored, s.storedLength i = some stored → stored ≤ (contents acts i).length) ∧
    s.storedTotal ≤ ((List.range s.width).map fun i => (contents acts i).length).sum := by
  intro s
  obtain ⟨hholds, hheight⟩ := holds_run height h
  have htight := Columns.tight_run height h
  refine ⟨fun i side back hdropped => ?_, fun i stored hstored => ?_, hholds.storedTotal_le htight⟩
  · obtain ⟨kept, hc⟩ := Columns.column_of_truncation hdropped
    have hi := Columns.lt_width hc
    obtain ⟨run, hrun, hlong, hlength⟩ := htight i kept side back hc
    rw [hholds.length_expand hi, hheight] at hlong hlength
    exact ⟨s.expand i, s.expand (i - back), run, kept.length, if_pos hi,
      (hholds.sound i _ hc side back rfl).2.2.1, if_pos (by omega), hrun, hlong,
      Columns.storedLength_eq hc, hlength⟩
  · obtain ⟨c, hc, rfl⟩ := Option.map_eq_some_iff.mp hstored
    exact hholds.length_values_le htight hc

/-- The third column refers to the first one. The second one, which stands between them, is written
anew and then shares no run with either. -/
theorem a_column_between_two_is_written_anew :
    let one : Single := ⟨0x3f800000⟩
    let two : Single := ⟨0x40000000⟩
    let acts : List Act := [.set 0 [one, one, one, one], .set 1 [one, one, one, two],
      .set 2 [one, one, two, two], .set 1 [two, two, one, two]]
    let s := Columns.run 4 acts
    AtOneHeight acts ∧ s.truncation 2 = some (.dropped .leading 2) ∧
      LongestShared .leading [one, one, two, two] [one, one, one, one] 2 ∧
      s.storedLength 2 = some 2 ∧ s.storedTotal ≤ 12 := by
  intro one two acts s
  have hheight : AtOneHeight acts := by
    intro height hmem
    simp [acts] at hmem
  have hdropped : s.truncation 2 = some (.dropped .leading 2) := by cbv
  have hkept : s.storedLength 2 = some 2 := by cbv
  have hcolumn : s.get 2 = some [one, one, two, two] := by cbv
  have hreference : s.get 0 = some [one, one, one, one] := by cbv
  have hwidth : s.width = 3 := by cbv
  have hroom : ((List.range s.width).map fun i => (contents acts i).length).sum = 12 := by
    rw [hwidth]
    rfl
  obtain ⟨htight, _, htotal⟩ := what_is_kept_lacks_the_longest_shared_run 4 acts hheight
  obtain ⟨column, reference, run, stored, hget, _, hget', hrun, _, hstored, hlength⟩ :=
    htight 2 .leading 2 hdropped
  obtain rfl := Option.some.inj (hcolumn.symm.trans hget)
  obtain rfl := Option.some.inj (hreference.symm.trans hget')
  obtain rfl := Option.some.inj (hkept.symm.trans hstored)
  obtain rfl : run = 2 := by omega
  exact ⟨hheight, hdropped, hrun, hkept, htotal.trans_eq hroom⟩

end AudioHost.Grid
