import AudioHost.Proofs.Grid.Compression

/-!
What columns read as when the height is set after a run of writes. What is kept of a column stays as
it is, and what it shares is copied from its reference at the new height. So a column that keeps its
front is cut or padded, but values that are kept behind a leading run are moved.
-/

namespace AudioHost.Grid

variable {side : Side} {old new : Nat} {kept values reference : List Single}

/-! ## Cutting and padding again -/

theorem resize_append (h : kept.length ≤ new) (values : List Single) :
    resize new (kept ++ values) = kept ++ resize (new - kept.length) values := by
  unfold resize
  have hzeros : new - (kept ++ values).length = new - kept.length - values.length := by
    rw [List.length_append]
    omega
  rw [List.take_append, List.take_of_length_le h, List.append_assoc, hzeros]

theorem take_resize {k : Nat} (h : k ≤ new) (values : List Single) :
    (resize new values).take k = resize k values := by
  unfold resize
  rw [List.take_append, List.take_take, List.take_replicate, List.length_take, Nat.min_eq_left h]
  congr 2
  omega

theorem drop_resize {k : Nat} (h : k ≤ new) (values : List Single) :
    (resize new values).drop k = resize (new - k) (values.drop k) := by
  unfold resize
  rw [List.drop_append, List.drop_take, List.drop_replicate, List.length_take, List.length_drop]
  congr 2
  omega

theorem resize_of_le (h : new ≤ values.length) : resize new values = values.take new := by
  unfold resize
  rw [Nat.sub_eq_zero_of_le h, List.replicate_zero, List.append_nil]

theorem resize_eq_zeros_iff :
    resize new values = List.replicate new .zero ↔ ∀ v ∈ values.take new, v = .zero := by
  rw [List.eq_replicate_iff, length_resize, eq_self, true_and]
  unfold resize
  simp +contextual [or_imp]

theorem resize_resize_of_le (h : new ≤ old) (values : List Single) :
    resize new (resize old values) = resize new values := by
  rw [resize_of_le (by rwa [length_resize]), take_resize h]

/-- What a first height cut off is not missed at another one just if it is zero as far as that
height goes. -/
theorem resize_resize_iff : resize new (resize old values) = resize new values ↔
    ∀ v ∈ (values.take new).drop old, v = .zero := by
  by_cases h : new ≤ old
  · have hnone : (values.take new).drop old = [] := by
      apply List.drop_eq_nil_of_le
      rw [List.length_take]
      omega
    simp [resize_resize_of_le h, hnone]
  · have hle : old ≤ new := by omega
    have hpadded : resize new (resize old values) =
        resize old values ++ List.replicate (new - old) .zero := by
      have happend : resize new (resize old values ++ []) =
          resize old values ++ resize (new - (resize old values).length) [] :=
        resize_append (by rwa [length_resize]) []
      rwa [List.append_nil, length_resize, resize_nil] at happend
    have hsplit : resize new values =
        resize old values ++ resize (new - old) (values.drop old) := by
      rw [← take_resize hle, ← drop_resize hle, List.take_append_drop]
    rw [hpadded, hsplit, List.append_cancel_left_eq, eq_comm, resize_eq_zeros_iff, List.drop_take]

/-! ## Putting together -/

theorem length_splice (side : Side) (kept reference : List Single) :
    (Column.splice side kept reference).length = max kept.length reference.length := by
  unfold Column.splice
  cases side <;> simp <;> omega

/-- What is kept behind a leading run stands at the end. -/
theorem splice_leading_eq (kept reference : List Single) :
    Column.splice .leading kept reference =
      reference.take (reference.length - kept.length) ++ kept := by
  unfold Column.splice
  dsimp only
  congr 2
  omega

/-- What is kept in front of a trailing run stands in front. -/
theorem splice_front (h : side = .trailing ∨ kept = []) (reference : List Single) :
    Column.splice side kept reference = kept ++ reference.drop kept.length := by
  unfold Column.splice
  rcases h with rfl | rfl
  · by_cases h : kept.length ≤ reference.length
    · rw [Nat.min_eq_left h]
    · have hle : reference.length ≤ kept.length := by omega
      rw [Nat.min_eq_right hle]
      dsimp only
      rw [List.drop_length, List.drop_eq_nil_of_le hle]
  · cases side <;> simp

/-- What stands in front stays there, and the rest is cut or padded as the reference is. -/
theorem splice_front_eq_iff (h : side = .trailing ∨ kept = []) (hold : kept.length ≤ old)
    (hnew : kept.length ≤ new) :
    Column.splice side kept (resize new values) =
        resize new (Column.splice side kept (resize old values)) ↔
      ∀ v ∈ (values.take new).drop old, v = .zero := by
  rw [splice_front h, splice_front h, resize_append hnew, ← drop_resize hnew,
    List.append_cancel_left_eq, ← resize_resize_iff, eq_comm]
  constructor
  · intro hrest
    rw [← List.take_append_drop kept.length (resize new (resize old values)), hrest,
      take_resize hnew, resize_resize_of_le hold, ← take_resize hnew, List.take_append_drop]
  · exact fun hall => congrArg _ hall

/-- At a height that is not larger, what stands at the end has to be what stood at the new end. -/
theorem splice_leading_eq_iff (hkept : kept.length ≤ new) (hle : new ≤ old) :
    let before := Column.splice .leading kept (resize old values)
    Column.splice .leading kept (resize new values) = resize new before ↔
      (before.take new).drop (new - kept.length) = before.drop (old - kept.length) := by
  intro before
  have hbefore : before = (resize old values).take (old - kept.length) ++ kept := by
    rw [show before = _ from splice_leading_eq _ _, length_resize]
  have hlength : before.length = old := by
    rw [length_splice, length_resize]
    omega
  have hend : before.drop (old - kept.length) = kept := by
    rw [hbefore]
    apply List.drop_left'
    rw [List.length_take, length_resize]
    omega
  have hfront : (before.take new).take (new - kept.length) = resize (new - kept.length) values := by
    rw [hbefore, List.take_take, List.take_append_of_le_length, List.take_take, take_resize]
    · congr 1
      omega
    · omega
    · rw [List.length_take, length_resize]
      omega
  have hafter : Column.splice .leading kept (resize new values) =
      resize (new - kept.length) values ++ kept := by
    rw [splice_leading_eq, length_resize, take_resize (Nat.sub_le _ _)]
  have hwhole : resize new before =
      resize (new - kept.length) values ++ (before.take new).drop (new - kept.length) := by
    rw [resize_of_le (by rwa [hlength]), ← hfront, List.take_append_drop]
  rw [hafter, hwhole, List.append_cancel_left_eq, hend, eq_comm]

theorem splice_leading_ne (hkept : kept ≠ []) (hlt : old < new)
    (htight : Tight .leading kept (Column.splice .leading kept (resize old values))
      (resize old values)) :
    Column.splice .leading kept (resize new values) ≠
      resize new (Column.splice .leading kept (resize old values)) := by
  intro heq
  have hsome : 0 < kept.length := List.length_pos_of_ne_nil hkept
  obtain ⟨run, ⟨_, hgreatest⟩, hlong, hlength⟩ := htight
  generalize hbefore : Column.splice .leading kept (resize old values) = before at *
  have hheight : before.length = max kept.length old := by
    rw [← hbefore, length_splice, length_resize]
  have hold : kept.length + run = old := by omega
  -- At a larger height the reference shows one value more in front, so the run would be longer.
  have hshared : before.take (run + 1) = (resize old values).take (run + 1) :=
    calc before.take (run + 1)
      _ = (resize new before).take (run + 1) := by
        rw [take_resize (by omega), resize_of_le (by omega)]
      _ = (resize new values).take (run + 1) := by
        rw [← heq, splice_leading_eq, length_resize, List.take_append_of_le_length, List.take_take,
          Nat.min_eq_left (by omega)]
        rw [List.length_take, length_resize]
        omega
      _ = (resize old values).take (run + 1) := by
        rw [take_resize (by omega), take_resize (by omega)]
  have hmore := hgreatest ⟨before.take (run + 1), List.take_prefix _ _,
    hshared ▸ List.take_prefix _ _, rfl⟩
  rw [List.length_take] at hmore
  omega

/-- What a column is put together from at a new height is what it was before, cut or padded. -/
theorem splice_eq_iff (hle : kept.length ≤ old)
    (htight : Tight side kept (Column.splice side kept (resize old values)) (resize old values)) :
    let before := Column.splice side kept (resize old values)
    Column.splice side kept (resize new values) = resize new before ↔ kept.length ≤ new ∧
      ((side = .trailing ∨ kept = []) ∧ (∀ v ∈ (values.take new).drop old, v = .zero) ∨
        side = .leading ∧ new ≤ old ∧
          (before.take new).drop (new - kept.length) = before.drop (old - kept.length)) := by
  intro before
  constructor
  · intro heq
    have hfits : kept.length ≤ new := by
      have hlength := congrArg List.length heq
      rw [length_splice, length_resize, length_resize] at hlength
      omega
    refine ⟨hfits, ?_⟩
    by_cases hside : side = .trailing ∨ kept = []
    · exact Or.inl ⟨hside, (splice_front_eq_iff hside hle hfits).mp heq⟩
    rw [not_or] at hside
    cases side with
    | trailing => exact absurd rfl hside.1
    | leading =>
      by_cases hlow : new ≤ old
      · exact Or.inr ⟨rfl, hlow, (splice_leading_eq_iff hfits hlow).mp heq⟩
      · exact absurd heq (splice_leading_ne hside.2 (Nat.lt_of_not_le hlow) htight)
  · rintro ⟨hfits, ⟨hside, hzero⟩ | ⟨rfl, hlow, hsame⟩⟩
    · exact (splice_front_eq_iff hside hle hfits).mpr hzero
    · exact (splice_leading_eq_iff hfits hlow).mpr hsame

namespace Columns

variable {s : Columns} {f : Nat → List Single} {i : Nat}

/-! ## Reading at another height -/

/-- What a column reads as at another height. One that refers to another column reads as the values
that are kept of it, and as what its reference reads as at this height. -/
inductive ReadsAs (s : Columns) (f : Nat → List Single) (new i : Nat) : List Single → Prop
  | whole (h : s.truncation i = some .whole) : s.ReadsAs f new i (resize new (f i))
  /-- What is kept stands in front as before. -/
  | trailing {back kept : Nat} (h : s.truncation i = some (.dropped .trailing back))
      (hkept : s.storedLength i = some kept) :
      s.ReadsAs f new i ((f i).take kept ++ (resize new (f (i - back))).drop kept)
  /-- What is kept stands at the end as before. -/
  | leading {back kept : Nat} (h : s.truncation i = some (.dropped .leading back))
      (hkept : s.storedLength i = some kept) :
      s.ReadsAs f new i
        ((resize new (f (i - back))).take (new - kept) ++ (f i).drop (s.height - kept))

/-- When a column reads as before at another height, but for what is cut or padded. What is kept of
it fits. If it stands in front, or nothing is kept, the values that show up are zero. If some values
are kept behind a leading run, the height is no larger, and they are the same as the values that the
new height ends with. -/
inductive Resizes (s : Columns) (f : Nat → List Single) (new i : Nat) : Prop
  | whole (h : s.truncation i = some .whole)
      (hzero : ∀ v ∈ ((f i).take new).drop s.height, v = .zero)
  | front {side : Side} {back kept : Nat} (h : s.truncation i = some (.dropped side back))
      (hkept : s.storedLength i = some kept) (hside : side = .trailing ∨ kept = 0)
      (hfits : kept ≤ new) (hzero : ∀ v ∈ ((f (i - back)).take new).drop s.height, v = .zero)
  | leading {back kept : Nat} (h : s.truncation i = some (.dropped .leading back))
      (hkept : s.storedLength i = some kept) (hfits : kept ≤ new) (hle : new ≤ s.height)
      (hsame : ((f i).take new).drop (new - kept) = (f i).drop (s.height - kept))

theorem Holds.expand_whole (h : s.Holds f) (hc : s.columns[i]? = some ⟨values, .whole⟩)
    (new : Nat) : (s.setHeight new).expand i = resize new (f i) := by
  rcases h.column i _ hc with hvalues | ⟨hnot, _⟩
  · rw [hvalues] at hc
    exact Columns.expand_whole (s := s.setHeight new) hc
  · exact absurd rfl hnot

theorem Holds.expand_dropped {back : Nat} (h : s.Holds f)
    (hc : s.columns[i]? = some ⟨kept, .dropped side back⟩) (new : Nat) :
    (s.setHeight new).expand i = Column.splice side kept (resize new (f (i - back))) := by
  obtain ⟨hback, _, hle, whole, hreference⟩ := h.sound i _ hc side back rfl
  rw [← h.expand_whole hreference new]
  exact Columns.expand_dropped (s := s.setHeight new) hc hback hle

/-- A column that refers to another one was written at the height. -/
theorem Holds.dropped {back : Nat} (h : s.Holds f)
    (hc : s.columns[i]? = some ⟨kept, .dropped side back⟩) :
    (f i).length = s.height ∧ kept.length ≤ s.height ∧
      f i = Column.splice side kept (resize s.height (f (i - back))) := by
  rcases h.column i _ hc with hwhole | ⟨_, hlength, hexpand⟩
  · exact absurd (congrArg Column.truncation hwhole) Truncation.noConfusion
  · have hreads : f i = Column.splice side kept (resize s.height (f (i - back))) :=
      hexpand.symm.trans (h.expand_dropped hc s.height)
    have hsplice := congrArg List.length hreads
    rw [length_splice, length_resize, hlength] at hsplice
    exact ⟨hlength, by omega, hreads⟩

theorem Holds.readsAs (h : s.Holds f) (hi : i < s.width) (new : Nat) :
    s.ReadsAs f new i ((s.setHeight new).expand i) := by
  obtain ⟨⟨kept, truncation⟩, hc⟩ : ∃ c, s.columns[i]? = some c :=
    ⟨_, List.getElem?_eq_getElem hi⟩
  obtain _ | ⟨side, back⟩ := truncation
  · rw [h.expand_whole hc]
    exact .whole (truncation_eq hc)
  · obtain ⟨_, hle, hreads⟩ := h.dropped hc
    rw [h.expand_dropped hc]
    cases side with
    | trailing =>
      have hkept : (f i).take kept.length = kept := by
        rw [hreads, splice_front (Or.inl rfl), List.take_left]
      have hread : s.ReadsAs f new i _ := .trailing (truncation_eq hc) (storedLength_eq hc)
      rw [hkept] at hread
      rwa [splice_front (Or.inl rfl)]
    | leading =>
      have hkept : (f i).drop (s.height - kept.length) = kept := by
        rw [hreads, splice_leading_eq, length_resize]
        apply List.drop_left'
        rw [List.length_take, length_resize]
        omega
      have hread : s.ReadsAs f new i _ := .leading (truncation_eq hc) (storedLength_eq hc)
      rw [hkept] at hread
      rwa [splice_leading_eq, length_resize]

theorem Holds.length_expand_setHeight_iff (h : s.Holds f) (hi : i < s.width) (new : Nat) :
    ((s.setHeight new).expand i).length = new ↔
      s.truncation i = some .whole ∨ ∃ kept, s.storedLength i = some kept ∧ kept ≤ new := by
  obtain ⟨⟨kept, truncation⟩, hc⟩ : ∃ c, s.columns[i]? = some c :=
    ⟨_, List.getElem?_eq_getElem hi⟩
  obtain _ | ⟨side, back⟩ := truncation
  · simp [h.expand_whole hc, truncation_eq hc]
  · rw [h.expand_dropped hc, length_splice, length_resize]
    simp [truncation_eq hc, storedLength_eq hc]

theorem resizes_whole_iff (hc : s.columns[i]? = some ⟨values, .whole⟩) (new : Nat) :
    s.Resizes f new i ↔ ∀ v ∈ ((f i).take new).drop s.height, v = .zero := by
  have htruncation : s.truncation i = some .whole := truncation_eq hc
  constructor
  · intro hresizes
    cases hresizes with
    | whole _ hzero => exact hzero
    | front hdropped => cases htruncation.symm.trans hdropped
    | leading hdropped => cases htruncation.symm.trans hdropped
  · exact .whole htruncation

theorem resizes_dropped_iff {back : Nat}
    (hc : s.columns[i]? = some ⟨kept, .dropped side back⟩) (new : Nat) :
    s.Resizes f new i ↔ kept.length ≤ new ∧
      ((side = .trailing ∨ kept = []) ∧
          (∀ v ∈ ((f (i - back)).take new).drop s.height, v = .zero) ∨
        side = .leading ∧ new ≤ s.height ∧
          ((f i).take new).drop (new - kept.length) = (f i).drop (s.height - kept.length)) := by
  have htruncation : s.truncation i = some (.dropped side back) := truncation_eq hc
  have hstored : s.storedLength i = some kept.length := storedLength_eq hc
  constructor
  · intro hresizes
    cases hresizes with
    | whole hwhole => cases htruncation.symm.trans hwhole
    | front hdropped hkept hside hfits hzero =>
      cases htruncation.symm.trans hdropped
      cases hstored.symm.trans hkept
      exact ⟨hfits, Or.inl ⟨hside.imp_right List.eq_nil_of_length_eq_zero, hzero⟩⟩
    | leading hdropped hkept hfits hlow hsame =>
      cases htruncation.symm.trans hdropped
      cases hstored.symm.trans hkept
      exact ⟨hfits, Or.inr ⟨rfl, hlow, hsame⟩⟩
  · rintro ⟨hfits, ⟨hside, hzero⟩ | ⟨rfl, hlow, hsame⟩⟩
    · exact .front htruncation hstored (hside.imp_right (congrArg List.length)) hfits hzero
    · exact .leading htruncation hstored hfits hlow hsame

theorem Holds.resizes_iff (h : s.Holds f) (ht : s.Tight) (hi : i < s.width) (new : Nat) :
    (s.setHeight new).expand i = resize new (s.expand i) ↔ s.Resizes f new i := by
  obtain ⟨⟨kept, truncation⟩, hc⟩ : ∃ c, s.columns[i]? = some c :=
    ⟨_, List.getElem?_eq_getElem hi⟩
  obtain _ | ⟨side, back⟩ := truncation
  · rw [resizes_whole_iff hc, h.expand_whole hc, h.expand hi, eq_comm, resize_resize_iff]
  · obtain ⟨hlength, hle, hreads⟩ := h.dropped hc
    have hexpand : s.expand i = f i := by rw [h.expand hi, resize_of_length hlength]
    have htight := ht i kept side back hc
    rw [hexpand, hreads, h.expand (by omega)] at htight
    rw [resizes_dropped_iff hc, h.expand_dropped hc, hexpand, hreads]
    exact splice_eq_iff hle htight

end Columns

/-! ## The law -/

/-- When the height is set after a run of writes at one height, every column reads as what is kept
of it and as what its reference lends at the new height. A column that refers to another one has the
new height just if what is kept of it fits. What is read is what was read before, cut or padded,
just if no values were moved and none show up that had been cut off. -/
theorem a_column_is_read_from_its_reference_at_a_new_height (height : Nat) (acts : List Act)
    (h : AtOneHeight acts) (new : Nat) :
    let s := Columns.run height acts
    let t := s.setHeight new
    let f := contents acts
    ∀ i < s.width, ∃ before after, s.get i = some before ∧ before = resize height (f i) ∧
      t.get i = some after ∧ s.ReadsAs f new i after ∧
      (after.length = new ↔
        s.truncation i = some .whole ∨ ∃ kept, s.storedLength i = some kept ∧ kept ≤ new) ∧
      (after = resize new before ↔ s.Resizes f new i) := by
  intro s t f i hi
  obtain ⟨hholds, hheight⟩ := holds_run height h
  have hi' : i < t.width := hi
  refine ⟨s.expand i, t.expand i, if_pos hi, ?_, if_pos hi', hholds.readsAs hi new,
    hholds.length_expand_setHeight_iff hi new,
    hholds.resizes_iff (Columns.tight_run height h) hi new⟩
  rw [← hheight]
  exact hholds.expand hi

/-- At a larger height a column that keeps its front is padded. One that keeps a value behind a
leading run reads two values of its reference more, and then this value. -/
theorem a_trailing_run_is_padded_and_a_leading_run_is_not :
    let one : Single := ⟨0x3f800000⟩
    let two : Single := ⟨0x40000000⟩
    let acts : List Act := [.set 0 [one, one, one, one], .set 1 [two, one, one, one],
      .set 2 [two, two, two, two], .set 3 [two, two, two, one]]
    let s := Columns.run 4 acts
    AtOneHeight acts ∧ s.truncation 1 = some (.dropped .trailing 1) ∧
      s.truncation 3 = some (.dropped .leading 1) ∧
      (s.setHeight 6).get 1 = some [two, one, one, one, .zero, .zero] ∧
      s.Resizes (contents acts) 6 1 ∧
      (s.setHeight 6).get 3 = some [two, two, two, two, .zero, one] ∧
      ¬ s.Resizes (contents acts) 6 3 := by
  intro one two acts s
  have hheight : AtOneHeight acts := by
    intro height hmem
    simp [acts] at hmem
  have hbefore₁ : s.get 1 = some [two, one, one, one] := by cbv
  have hafter₁ : (s.setHeight 6).get 1 = some [two, one, one, one, .zero, .zero] := by cbv
  have hbefore₃ : s.get 3 = some [two, two, two, one] := by cbv
  have hafter₃ : (s.setHeight 6).get 3 = some [two, two, two, two, .zero, one] := by cbv
  have hlaw := a_column_is_read_from_its_reference_at_a_new_height 4 acts hheight 6
  obtain ⟨before₁, after₁, hget₁, _, hget₁', _, _, hiff₁⟩ := hlaw 1 (by cbv)
  obtain ⟨before₃, after₃, hget₃, _, hget₃', _, _, hiff₃⟩ := hlaw 3 (by cbv)
  cases hbefore₁.symm.trans hget₁
  cases hafter₁.symm.trans hget₁'
  cases hbefore₃.symm.trans hget₃
  cases hafter₃.symm.trans hget₃'
  exact ⟨hheight, by cbv, by cbv, hafter₁, hiff₁.mp (by decide), hafter₃,
    fun hresizes => absurd (hiff₃.mpr hresizes) (by decide)⟩

/-- Two grids with the same columns, which were written in another order, read alike until the
height is set. -/
theorem two_grids_that_read_alike_part_at_another_height :
    let one : Single := ⟨0x3f800000⟩
    let two : Single := ⟨0x40000000⟩
    let s := Columns.run 4 [.set 0 [one, one, one, one], .set 1 [one, one, one, two]]
    let t := Columns.run 4 [.set 1 [one, one, one, two], .set 0 [one, one, one, one]]
    (∀ i, s.get i = t.get i) ∧ s.get 1 = some [one, one, one, two] ∧
      (s.setHeight 6).get 1 = some [one, one, one, one, .zero, two] ∧
      (t.setHeight 6).get 1 = some [one, one, one, two, .zero, .zero] ∧
      (s.setHeight 0).get 1 = some [two] ∧ (t.setHeight 0).get 1 = some [] := by
  intro one two s t
  refine ⟨?_, by cbv, by cbv, by cbv, by cbv, by cbv⟩
  have hs : s.width = 2 := by cbv
  have ht : t.width = 2 := by cbv
  intro i
  rcases i with _ | _ | i
  · cbv
  · cbv
  · unfold Columns.get
    rw [if_neg (by omega), if_neg (by omega)]

end AudioHost.Grid
