import AudioHost.Grid.Storage
import AudioHost.Proofs.Grid.History

/-!
The laws of columns in memory. Where every reference is sound, each checked step goes through and
does to the columns in memory what the plain step does to the columns: no place is missing, no
difference goes below zero, no part of a row ends outside of it and no distance is too wide for its
byte. A column is read through one reference at most.
-/

namespace AudioHost.Grid

/-! ## Checked steps that go through -/

namespace Checked

variable {α : Type}

@[simp] theorem ok_bind {β : Type} (x : α) (f : α → Except Fault β) :
    (Except.ok x >>= f) = f x := rfl

@[simp] theorem pure_eq_ok (x : α) : (pure x : Except Fault α) = .ok x := rfl

theorem read_ok {xs : List α} {i : Nat} {x : α} (h : xs[i]? = some x) : read xs i = .ok x := by
  rw [read, h]

theorem write_ok {xs : List α} {i : Nat} (h : i < xs.length) (x : α) :
    write xs i x = .ok (xs.set i x) := by
  simp [write, h]

theorem minus_ok {a b : Nat} (h : b ≤ a) : minus a b = .ok (a - b) := by
  simp [minus, h]

theorem suffix_ok {xs : List α} {n : Nat} (h : n ≤ xs.length) :
    suffix xs n = .ok (xs.drop n) := by
  simp [suffix, h]

theorem front_ok {xs : List α} {n : Nat} (h : n ≤ xs.length) : front xs n = .ok (xs.take n) := by
  simp [front, h]

/-- The furthest distance back fits into a signed byte. -/
theorem byte_ok {n : Nat} (h : n ≤ maxBack) : byte n = .ok (.ofNat n) := by
  simp only [maxBack] at h
  rw [byte, if_pos (by omega)]

theorem sameFrom_ok {xs ys : List Single} {i n : Nat} (hx : xs.length = i + n)
    (hy : ys.length = i + n) :
    sameFrom xs ys i n = .ok (commonRun (xs.drop i) (ys.drop i)) := by
  induction n generalizing i with
  | zero => simp [sameFrom, List.drop_of_length_le, hx, hy, commonRun]
  | succ n ih =>
    have hxi : i < xs.length := by omega
    have hyi : i < ys.length := by omega
    have hrest := ih (i := i + 1) (by omega) (by omega)
    rw [List.drop_eq_getElem_cons hxi, List.drop_eq_getElem_cons hyi]
    simp only [sameFrom, read_ok (List.getElem?_eq_getElem hxi),
      read_ok (List.getElem?_eq_getElem hyi), hrest, commonRun, ok_bind, pure_eq_ok]
    split
    · rfl
    · rfl

theorem sameBefore_ok {xs ys : List Single} {n : Nat} (hx : n ≤ xs.length) (hy : n ≤ ys.length) :
    sameBefore xs ys n = .ok (commonRun (xs.take n).reverse (ys.take n).reverse) := by
  induction n with
  | zero => simp [sameBefore, commonRun]
  | succ n ih =>
    have hrest := ih (by omega) (by omega)
    rw [List.take_succ_eq_append_getElem hx, List.take_succ_eq_append_getElem hy]
    simp only [sameBefore, read_ok (List.getElem?_eq_getElem hx),
      read_ok (List.getElem?_eq_getElem hy), hrest, List.reverse_append, List.reverse_singleton,
      List.singleton_append, commonRun, ok_bind, pure_eq_ok]
    split
    · rfl
    · rfl

end Checked

/-! ## Cells -/

namespace Cell

@[simp] theorem ofColumn_whole (values : List Single) :
    ofColumn (.whole values) = whole values := rfl

theorem toInt_offsetOf {back : Nat} (h : back ≤ maxBack) (side : Side) :
    (offsetOf (.dropped side back)).toInt =
      match side with
      | .leading => -(back : Int)
      | .trailing => back := by
  simp only [maxBack] at h
  have hbyte : (Int8.ofNat back).toInt = back := Int8.toInt_ofNat_of_lt (by omega)
  cases side with
  | leading =>
    simp only [offsetOf, Int8.toInt_neg, hbyte]
    exact Int.bmod_eq_of_le (by omega) (by omega)
  | trailing => exact hbyte

theorem back_ofColumn {back : Nat} (h : back ≤ maxBack) (side : Side) (kept : List Single) :
    (ofColumn ⟨kept, .dropped side back⟩).back = back := by
  simp only [Cell.back, ofColumn, toInt_offsetOf h side]
  cases side
  · simp
  · simp

theorem offset_ne_zero {back : Nat} (h0 : 0 < back) (h : back ≤ maxBack) (side : Side) :
    offsetOf (.dropped side back) ≠ 0 := by
  intro hzero
  have hint := toInt_offsetOf h side
  rw [hzero, Int8.toInt_zero] at hint
  cases side
  · simp only at hint
    omega
  · simp only at hint
    omega

/-- The sign of the byte tells the side. -/
theorem offset_neg_iff {back : Nat} (h0 : 0 < back) (h : back ≤ maxBack) (side : Side) :
    offsetOf (.dropped side back) < 0 ↔ side = .leading := by
  rw [Int8.lt_iff_toInt_lt, toInt_offsetOf h side, Int8.toInt_zero]
  cases side
  · simp [h0]
  · simp

theorem offset_pos_iff {back : Nat} (h0 : 0 < back) (h : back ≤ maxBack) (side : Side) :
    0 < offsetOf (.dropped side back) ↔ side = .trailing := by
  rw [Int8.lt_iff_toInt_lt, toInt_offsetOf h side, Int8.toInt_zero]
  cases side
  · simp
  · simp [h0]

/-- What a column in memory hands on to the right is what the column does. -/
theorem inherited_ofColumn {s : Columns} {i : Nat} {c : Column} (hc : s.Anchored i c) :
    (ofColumn c).inherited = Columns.inherited c.truncation := by
  obtain ⟨kept, _ | ⟨side, back⟩⟩ := c
  · rfl
  · obtain ⟨h0, hmax, _⟩ := hc side back rfl
    have hne := offset_ne_zero h0 hmax side
    have hneg := offset_neg_iff h0 hmax side
    have hback := back_ofColumn hmax side kept
    simp only [inherited, hback]
    simp only [ofColumn, hne, hneg, if_false, Columns.inherited]
    cases side
    · simp
    · simp

end Cell

/-! ## Reading -/

namespace Storage

@[simp] theorem height_ofColumns (s : Columns) : (ofColumns s).height = s.height := rfl

@[simp] theorem length_cells_ofColumns (s : Columns) : (ofColumns s).cells.length = s.width := by
  simp [ofColumns, Columns.width]

theorem getElem?_cells_ofColumns {s : Columns} {i : Nat} {c : Column}
    (h : s.columns[i]? = some c) : (ofColumns s).cells[i]? = some (.ofColumn c) := by
  simp [ofColumns, h]

/-- Putting a dropped run back takes no more than there is of the reference. -/
theorem splice_ok {back : Nat} (h0 : 0 < back) (h : back ≤ maxBack) (side : Side)
    (kept reference : List Single) :
    splice (.ofColumn ⟨kept, .dropped side back⟩) reference =
      .ok (Column.splice side kept reference) := by
  have hle : min kept.length reference.length ≤ reference.length := Nat.min_le_right _ _
  have hpos := Cell.offset_pos_iff h0 h side
  simp only [splice, Cell.ofColumn, hpos, Checked.minus_ok hle, Checked.ok_bind]
  cases side with
  | leading =>
    simp [Checked.front_ok (Nat.sub_le reference.length (min kept.length reference.length)),
      Column.splice]
  | trailing => simp [Checked.suffix_ok hle, Column.splice]

/-- The number of references that a column is read through. -/
def referencesOf : Truncation → Nat
  | .whole => 0
  | .dropped _ _ => 1

theorem expand_whole_ok {s : Columns} {i : Nat} {values : List Single}
    (h : s.columns[i]? = some (.whole values)) :
    (ofColumns s).expand i = .ok ⟨resize s.height values, 0⟩ := by
  rw [expand, getElem?_cells_ofColumns h]
  simp [Cell.whole]

/-- A column reads in memory as it does, through one reference if a run was dropped. -/
theorem expand_ok {s : Columns} (hs : s.Sound) {i : Nat} {c : Column}
    (hc : s.columns[i]? = some c) :
    (ofColumns s).expand i = .ok ⟨s.expand i, referencesOf c.truncation⟩ := by
  rcases Columns.expand_cases hs hc with
    ⟨values, rfl, he⟩ | ⟨kept, side, back, values, rfl, h0, hi, href, he⟩
  · rw [he]
    exact expand_whole_ok hc
  · obtain ⟨_, hmax, _⟩ := hs i _ hc side back rfl
    have hne : (Cell.ofColumn ⟨kept, .dropped side back⟩).offset ≠ 0 :=
      Cell.offset_ne_zero h0 hmax side
    have hback := Cell.back_ofColumn hmax side kept
    have hfirst : i ≠ 0 := by omega
    -- The defensive exit is not taken, and the column that is referred to is whole.
    rw [expand, getElem?_cells_ofColumns hc]
    simp only [hfirst, hne, or_self, if_false, hback, Nat.not_lt.mpr hi,
      expand_whole_ok href, Checked.ok_bind, splice_ok h0 hmax, he]
    rfl

/-! ## Detaching -/

theorem put_ofColumns {s : Columns} {i : Nat} (hi : i < s.width) (c : Column) :
    (ofColumns s).put i (.ofColumn c) =
      .ok (ofColumns { s with columns := s.columns.set i c }) := by
  have hlt : i < (ofColumns s).cells.length := by simpa using hi
  rw [put, Checked.write_ok hlt, Checked.ok_bind]
  simp [ofColumns, List.map_set]

theorem detachOne_ok {s : Columns} (hs : s.Sound) (index : Nat) {later : Nat}
    (hlater : later < s.width) :
    detachOne index (ofColumns s) later = .ok (ofColumns (s.detachOne index later)) := by
  obtain ⟨c, hc⟩ : ∃ c, s.columns[later]? = some c := ⟨_, List.getElem?_eq_getElem hlater⟩
  have hcell := Checked.read_ok (getElem?_cells_ofColumns hc)
  have hexpand := expand_ok hs hc
  obtain ⟨kept, _ | ⟨side, back⟩⟩ := c
  · simp [detachOne, hcell, Cell.ofColumn, Cell.offsetOf, Columns.detachOne, hc,
      Columns.refersTo]
  · obtain ⟨h0, hmax, hle, _⟩ := hs later _ hc side back rfl
    have hne : (Cell.ofColumn ⟨kept, .dropped side back⟩).offset ≠ 0 :=
      Cell.offset_ne_zero h0 hmax side
    have hback := Cell.back_ofColumn hmax side kept
    -- The difference does not go below zero, since a reference leads to a place that exists.
    have htarget : later - back = index ↔ later = index + back := by omega
    simp only [detachOne, hcell, Checked.ok_bind, hne, if_false, hback, Checked.minus_ok hle,
      hexpand, Columns.detachOne, hc, Columns.refersTo, htarget, decide_eq_true_eq]
    split
    · exact put_ofColumns hlater (.whole (s.expand later))
    · rfl

theorem detachAll_ok {s : Columns} (hs : s.Sound) (index : Nat) {places : List Nat}
    (hplaces : ∀ later ∈ places, later < s.width) :
    places.foldlM (detachOne index) (ofColumns s) =
      .ok (ofColumns (places.foldl (fun s later => s.detachOne index later) s)) := by
  induction places generalizing s with
  | nil => rfl
  | cons first rest ih =>
    rw [List.foldlM_cons, detachOne_ok hs index (hplaces first (by simp)), Checked.ok_bind]
    refine ih (Columns.sound_detachOne hs index first) ?_
    intro later hlater
    rw [Columns.width_detachOne]
    exact hplaces later (by simp [hlater])

/-- Past the end there is nothing to detach. -/
theorem foldl_detachOne_of_width_le (s : Columns) (index : Nat) {places : List Nat}
    (hplaces : ∀ later ∈ places, s.width ≤ later) :
    places.foldl (fun s later => s.detachOne index later) s = s := by
  induction places with
  | nil => rfl
  | cons first rest ih =>
    have hnone : s.columns[first]? = none :=
      List.getElem?_eq_none (hplaces first (by simp))
    have hsame : s.detachOne index first = s := by
      rw [Columns.detachOne, hnone]
    rw [List.foldl_cons, hsame]
    exact ih fun later hlater => hplaces later (by simp [hlater])

theorem detach_ok {s : Columns} (hs : s.Sound) {index : Nat} (hi : index < s.width) :
    (ofColumns s).detach index = .ok (ofColumns (s.detach index)) := by
  simp only [detach, length_cells_ofColumns]
  generalize hlast : min (index + maxBack) (s.width - 1) = last
  -- The places up to the last column are looked at, and those behind it do not exist.
  have hsplit : List.range' (index + 1) maxBack =
      List.range' (index + 1) (last - index) ++
        List.range' (last + 1) (maxBack - (last - index)) := by
    have happend := @List.range'_append (index + 1) (last - index) (maxBack - (last - index)) 1
    have hstart : index + 1 + 1 * (last - index) = last + 1 := by omega
    have hcount : last - index + (maxBack - (last - index)) = maxBack := by omega
    rw [hstart, hcount] at happend
    exact happend.symm
  rw [detachAll_ok hs index (by simp only [List.mem_range'_1]; omega), Columns.detach, hsplit,
    List.foldl_append]
  congr 2
  refine (foldl_detachOne_of_width_le _ index ?_).symm
  intro later hlater
  rw [(Columns.detached_foldl s index _).1.width_eq]
  simp only [List.mem_range'_1] at hlater
  omega

/-! ## Writing -/

theorem leadingRun_ok (known : Option Side) {values reference : List Single}
    (hlen : reference.length = values.length) :
    leadingRun known values reference values.length =
      .ok (sharedRun known .leading values reference) := by
  rw [leadingRun, Checked.sameFrom_ok (by simp) (by simp [hlen])]
  rcases known with _ | _ | _
  · simp [sharedRun]
  · simp [sharedRun]
  · simp [sharedRun]

theorem trailingRun_ok (known : Option Side) {values reference : List Single}
    (hlen : reference.length = values.length) :
    trailingRun known values reference values.length =
      .ok (sharedRun known .trailing values reference) := by
  rw [trailingRun, Checked.sameBefore_ok (Nat.le_refl _) (Nat.le_of_eq hlen.symm),
    List.take_length, ← hlen, List.take_length]
  rcases known with _ | _ | _
  · simp [sharedRun, commonTail]
  · simp [sharedRun]
  · simp [sharedRun, commonTail]

/-- Storing a column against a reference of its height cuts no row outside and leaves no distance
that is too wide. -/
theorem against_ok (known : Option Side) {back : Nat} (hback : back ≤ maxBack)
    {values reference : List Single} (hlen : reference.length = values.length) :
    against known back values reference values.length =
      .ok (.ofColumn (Column.against known back values reference)) := by
  rw [against, leadingRun_ok known hlen, Checked.ok_bind, trailingRun_ok known hlen,
    Checked.ok_bind]
  unfold Column.against chosenSide
  have hrun := fun side => sharedRun_le known side values reference
  -- On the chosen side the run is no longer than the column.
  rcases known.getD _ with _ | _
  · simp only [Checked.suffix_ok (hrun .leading), Checked.byte_ok hback, Checked.ok_bind,
      Checked.pure_eq_ok]
    split
    · rfl
    · rfl
  · simp only [Checked.minus_ok (hrun .trailing), Checked.front_ok (Nat.sub_le _ _),
      Checked.byte_ok hback, Checked.ok_bind, Checked.pure_eq_ok]
    split
    · rfl
    · rfl

theorem truncate_ok {s : Columns} (hs : s.Sound) {index : Nat} (hi : index < s.width)
    (values : List Single) :
    (ofColumns s).truncate index values = .ok (.ofColumn (s.truncate index values)) := by
  by_cases hfirst : index = 0 ∨ values.length ≠ s.height
  · simp [truncate, Columns.truncate, hfirst]
  rw [truncate, height_ofColumns, if_neg hfirst, Columns.truncate, if_neg hfirst]
  rw [not_or, Decidable.not_not] at hfirst
  obtain ⟨h0, hlen⟩ := hfirst
  have hlt : index - 1 < s.columns.length := by
    simp only [Columns.width] at hi
    omega
  obtain ⟨c, hc⟩ : ∃ c, s.columns[index - 1]? = some c := ⟨_, List.getElem?_eq_getElem hlt⟩
  have htr : (s.truncation (index - 1)).getD .whole = c.truncation := by
    simp [Columns.truncation, hc]
  rw [Checked.minus_ok (by omega), Checked.ok_bind,
    Checked.read_ok (getElem?_cells_ofColumns hc), Checked.ok_bind,
    Cell.inherited_ofColumn (hs (index - 1) c hc), htr]
  rcases hin : Columns.inherited c.truncation with ⟨known, back⟩
  -- The column that is compared with is kept whole, and it lies before this one.
  obtain ⟨_, hle, whole, href⟩ := Columns.inherited_whole hs h0 hi (htr ▸ hin)
  dsimp only
  split
  · rfl
  · rename_i hmax
    rw [Checked.minus_ok hle, Checked.ok_bind, expand_ok hs href, Checked.ok_bind]
    dsimp only
    split
    · rfl
    · rename_i hheight
      rw [Decidable.not_not] at hheight
      rw [← hlen]
      exact against_ok known (Nat.not_lt.mp hmax) (hheight.trans hlen.symm)

theorem grow_ofColumns (s : Columns) (index : Nat) :
    (ofColumns s).grow index = ofColumns (s.grow index) := by
  simp only [grow, length_cells_ofColumns]
  simp [ofColumns, Columns.grow, Cell.gap, Column.gap]

theorem ready_ok {s : Columns} (hs : s.Sound) (index : Nat) :
    (ofColumns s).ready index = .ok (ofColumns (s.ready index)) := by
  rw [ready, length_cells_ofColumns, Columns.ready]
  split
  · rename_i hi
    exact detach_ok hs hi
  · rw [grow_ofColumns]

/-- A write goes through in memory, and does there what it does to the columns. -/
theorem set_ok {s : Columns} (hs : s.Sound) (index : Nat) (values : List Single) :
    (ofColumns s).set index values = .ok (ofColumns (s.set index values)) := by
  have hlt : index < (s.ready index).width := by
    rw [Columns.width_ready]
    omega
  rw [set, ready_ok hs, Checked.ok_bind, truncate_ok (Columns.sound_ready hs index) hlt,
    Checked.ok_bind, put_ofColumns hlt, Columns.set_eq]

/-! ## Runs of changes -/

/-- The columns in memory after a change. -/
def apply (s : Storage) : Act → Except Fault Storage
  | .set index values => s.set index values
  | .clear => .ok { s with cells := [] }
  | .setHeight height => .ok { s with height }

/-- The columns in memory after a run of changes from none. -/
def run (height : Nat) (acts : List Act) : Except Fault Storage := acts.foldlM apply (empty height)

theorem apply_ok {s : Columns} (hs : s.Sound) (a : Act) :
    (ofColumns s).apply a = .ok (ofColumns (s.apply a)) := by
  cases a with
  | set index values => exact set_ok hs index values
  | clear => rfl
  | setHeight height => rfl

theorem run_ok (height : Nat) (acts : List Act) :
    run height acts = .ok (ofColumns (Columns.run height acts)) := by
  -- The last change is taken off, since what came before it leaves every reference sound.
  induction acts using List.reverseRecOn with
  | nil => rfl
  | append_singleton acts a ih =>
    rw [run, List.foldlM_append, ← run, ih, Checked.ok_bind, List.foldlM_cons,
      apply_ok (shows_run height acts).sound a, Columns.run_snoc]
    rfl

/-! ## The laws -/

/-- After any run of changes each column that dropped a run refers one to six places back, to a
column that is kept whole, and its byte holds the distance and the side; so the first column is
always whole. No step of the run is a fault. Nor is any reading, which goes through one reference
just if a run was dropped. -/
theorem every_reference_leads_to_a_whole_column (height : Nat) (acts : List Act) :
    let s := Columns.run height acts
    run height acts = .ok (ofColumns s) ∧
    (∀ i side back, s.truncation i = some (.dropped side back) →
      1 ≤ back ∧ back ≤ 6 ∧ back ≤ i ∧ s.truncation (i - back) = some .whole ∧
      ∃ cell, (ofColumns s).cells[i]? = some cell ∧ cell.back = back ∧
        (cell.offset < 0 ↔ side = .leading) ∧ (0 < cell.offset ↔ side = .trailing)) ∧
    (∀ side back, s.truncation 0 ≠ some (.dropped side back)) ∧
    ∀ i < s.width, ∃ reading, (ofColumns s).expand i = .ok reading ∧
      s.get i = some reading.values ∧ reading.references ≤ 1 ∧
      (reading.references = 0 ↔ s.truncation i = some .whole) := by
  intro s
  have hs : s.Sound := (shows_run height acts).sound
  refine ⟨run_ok height acts, ?_, ?_, ?_⟩
  · intro i side back htr
    obtain ⟨c, hc, hside⟩ := Option.map_eq_some_iff.mp htr
    obtain ⟨h0, hmax, hle, values, href⟩ := hs i c hc side back hside
    refine ⟨h0, hmax, hle, by simp [Columns.truncation, href, Column.whole],
      .ofColumn c, getElem?_cells_ofColumns hc, ?_⟩
    obtain ⟨kept, _⟩ := c
    cases hside
    exact ⟨Cell.back_ofColumn hmax side kept, Cell.offset_neg_iff h0 hmax side,
      Cell.offset_pos_iff h0 hmax side⟩
  · intro side back htr
    obtain ⟨c, hc, hside⟩ := Option.map_eq_some_iff.mp htr
    obtain ⟨h0, _, hle, _⟩ := hs 0 c hc side back hside
    omega
  · intro i hi
    obtain ⟨c, hc⟩ : ∃ c, s.columns[i]? = some c := ⟨_, List.getElem?_eq_getElem hi⟩
    refine ⟨_, expand_ok hs hc, by simp [Columns.get, hi], ?_, ?_⟩
    · cases c.truncation
      · exact Nat.zero_le _
      · exact Nat.le_refl _
    · simp only [Columns.truncation, hc, Option.map_some, Option.some.injEq]
      cases c.truncation
      · simp [referencesOf]
      · simp [referencesOf]

-- Three columns that differ in the last value only: both later ones refer to the first.
example : (run 2 [.set 0 [.one, .zero], .set 1 [.one, .one], .set 2 [.one, .nan]]).map
    (fun s => s.cells.map fun c => (c.values, c.offset)) =
    .ok [([.one, .zero], 0), ([.one], -1), ([.nan], -2)] := by cbv

end Storage

end AudioHost.Grid
