import AudioHost.Grid.Column

/-!
The laws of shared runs. A column that drops a run shared with another column, and then copies the
run back from that column, has its values again, bit for bit.
-/

namespace AudioHost.Grid

/-! ## The common run of two lists -/

theorem commonRun_le_left (xs ys : List Single) : commonRun xs ys ≤ xs.length := by
  induction xs generalizing ys with
  | nil => simp [commonRun]
  | cons x xs ih =>
    cases ys with
    | nil => simp [commonRun]
    | cons y ys =>
      have := ih ys
      simp only [commonRun, List.length_cons]
      split <;> omega

/-- Up to their common run two lists are the same. -/
theorem take_commonRun (xs ys : List Single) :
    xs.take (commonRun xs ys) = ys.take (commonRun xs ys) := by
  induction xs generalizing ys with
  | nil => simp [commonRun]
  | cons x xs ih =>
    cases ys with
    | nil => simp [commonRun]
    | cons y ys =>
      simp only [commonRun]
      split
      · rename_i hxy
        simp [hxy, ih ys]
      · simp

theorem commonTail_le_left (xs ys : List Single) : commonTail xs ys ≤ xs.length := by
  unfold commonTail
  have := commonRun_le_left xs.reverse ys.reverse
  simpa using this

/-- From their common tail on two lists are the same. -/
theorem drop_commonTail (xs ys : List Single) :
    xs.drop (xs.length - commonTail xs ys) = ys.drop (ys.length - commonTail xs ys) := by
  -- The common tail is the common run of the lists read backwards.
  have h := congrArg List.reverse (take_commonRun xs.reverse ys.reverse)
  simpa [List.take_reverse, commonTail] using h

/-- The leading run that is dropped, if it is dropped, is one of the reference. -/
theorem take_sharedRun (known : Option Side) (values reference : List Single) :
    values.take (sharedRun known .leading values reference) =
      reference.take (sharedRun known .leading values reference) := by
  unfold sharedRun
  split
  · exact take_commonRun values reference
  · simp

/-- The trailing run that is dropped, if it is dropped, is one of the reference. -/
theorem drop_sharedRun (known : Option Side) (values reference : List Single) :
    values.drop (values.length - sharedRun known .trailing values reference) =
      reference.drop (reference.length - sharedRun known .trailing values reference) := by
  unfold sharedRun
  split
  · exact drop_commonTail values reference
  · simp

theorem sharedRun_le (known : Option Side) (side : Side) (values reference : List Single) :
    sharedRun known side values reference ≤ values.length := by
  unfold sharedRun
  split
  · cases side
    · exact commonRun_le_left values reference
    · exact commonTail_le_left values reference
  · exact Nat.zero_le _

/-! ## A dropped run put back -/

/-- A leading run of the reference in front of what is kept. -/
theorem splice_leading {values reference : List Single} {n : Nat} (hn : n ≤ values.length)
    (hlen : reference.length = values.length) (h : values.take n = reference.take n) :
    Column.splice .leading (values.drop n) reference = values := by
  have hkept : min (values.drop n).length reference.length = values.length - n := by
    simp only [List.length_drop]
    omega
  -- What the reference lends is just as long as what was dropped.
  have hcopied : reference.length - (values.length - n) = n := by omega
  simp only [Column.splice, hkept, hcopied, ← h, List.take_append_drop]

/-- A trailing run of the reference behind what is kept. -/
theorem splice_trailing {values reference : List Single} {n : Nat}
    (hlen : reference.length = values.length)
    (h : values.drop (values.length - n) = reference.drop (reference.length - n)) :
    Column.splice .trailing (values.take (values.length - n)) reference = values := by
  have hkept : min (values.take (values.length - n)).length reference.length =
      values.length - n := by
    simp only [List.length_take]
    omega
  rw [hlen] at h
  simp only [Column.splice, hkept, ← h, List.take_append_drop]

namespace Column

/-- A column that is stored against a reference of its height is stored whole, or it refers that
far back and the reference gives its values back. -/
theorem against_cases (known : Option Side) (back : Nat) {values reference : List Single}
    (hlen : reference.length = values.length) :
    against known back values reference = whole values ∨
      ∃ side kept, against known back values reference = ⟨kept, .dropped side back⟩ ∧
        splice side kept reference = values := by
  unfold against
  dsimp only
  split
  · -- On either side, the run that is dropped is one that the reference has too.
    cases chosenSide known values reference with
    | leading =>
      exact Or.inr ⟨.leading, _, rfl,
        splice_leading (sharedRun_le ..) hlen (take_sharedRun known values reference)⟩
    | trailing =>
      exact Or.inr ⟨.trailing, _, rfl,
        splice_trailing hlen (drop_sharedRun known values reference)⟩
  · exact Or.inl rfl

end Column

/-! ## Cutting and padding -/

@[simp] theorem length_resize (height : Nat) (values : List Single) :
    (resize height values).length = height := by
  simp only [resize, List.length_append, List.length_take, List.length_replicate]
  omega

/-- A list of the height is neither cut nor padded. -/
theorem resize_of_length {height : Nat} {values : List Single} (h : values.length = height) :
    resize height values = values := by
  subst h
  simp [resize]

@[simp] theorem resize_nil (height : Nat) : resize height [] = List.replicate height .zero := by
  simp [resize]

end AudioHost.Grid
