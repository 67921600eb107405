import AudioHost.Grid.Spread

/-!
What the choice of a logarithmic scale depends on. A sum of machine numbers depends on their order.
The finite values are summed in ascending order of their bit patterns, and there is only one such
order, so the choice depends on nothing but the values.
-/

namespace AudioHost

/-! ## The order of bit patterns -/

/-- No two bit patterns have one rank; the two zeros differ in theirs. -/
theorem Double.rank_injective : Function.Injective Double.rank := by
  intro x y h
  obtain ⟨a⟩ := x
  obtain ⟨b⟩ := y
  have ha := a.toNat_lt
  have hb := b.toNat_lt
  simp only [rank, isNegative, magnitudeBits, decide_eq_true_eq] at h
  congr 1
  apply UInt64.toNat_inj.mp
  -- A negative pattern has a rank below 0, so two of one rank have one sign.
  split at h <;> split at h <;> omega

namespace Grid

variable {values order : List Double}

/-- No value stands behind one of higher rank. -/
def Ascending (values : List Double) : Prop := values.Pairwise fun x y => x.rank ≤ y.rank

theorem ascending_ranked (values : List Double) : Ascending (ranked values) := by
  have htrans : ∀ x y z : Double, decide (x.rank ≤ y.rank) = true →
      decide (y.rank ≤ z.rank) = true → decide (x.rank ≤ z.rank) = true := by
    simp only [decide_eq_true_eq]
    omega
  have htotal : ∀ x y : Double, (decide (x.rank ≤ y.rank) || decide (y.rank ≤ x.rank)) = true := by
    simp only [Bool.or_eq_true, decide_eq_true_eq]
    omega
  have hsorted := List.pairwise_mergeSort htrans htotal (values.filter Double.isFinite)
  unfold Ascending ranked
  simpa only [decide_eq_true_eq] using hsorted

theorem ranked_perm (values : List Double) : (ranked values).Perm (values.filter Double.isFinite) :=
  List.mergeSort_perm _ _

/-- Finite values can be put in ascending order in one way only. -/
theorem eq_ranked (hperm : order.Perm (values.filter Double.isFinite)) (horder : Ascending order) :
    order = ranked values := by
  apply List.Perm.eq_of_pairwise _ horder (ascending_ranked values)
    (hperm.trans (ranked_perm values).symm)
  intro x y _ _ hxy hyx
  exact Double.rank_injective (Int.le_antisymm hxy hyx)

theorem prefersLogScale_eq (hperm : order.Perm (values.filter Double.isFinite))
    (horder : Ascending order) :
    prefersLogScale values = (decide (2 ≤ order.length) && widerAbove order) := by
  unfold prefersLogScale
  rw [← eq_ranked hperm horder]
  by_cases hfew : order.length < 2
  · simp [hfew, Nat.not_le_of_lt hfew]
  · simp [hfew, Nat.le_of_not_lt hfew]

/-! ## The law -/

/-- Let two lists have the same finite values, bit for bit, in any order and with any infinities and
NaNs between them. The choice is the same for both. It is taken from the finite values of either
list in ascending order, however they are put in order: there are at least two of them, and their
upper half is spread much more widely. -/
theorem a_scale_is_chosen_by_the_finite_values (xs ys : List Double)
    (h : (xs.filter Double.isFinite).Perm (ys.filter Double.isFinite)) :
    prefersLogScale xs = prefersLogScale ys ∧
      ∀ order, order.Perm (ys.filter Double.isFinite) → Ascending order →
        prefersLogScale xs = (decide (2 ≤ order.length) && widerAbove order) := by
  have hchoice : ∀ order, order.Perm (ys.filter Double.isFinite) → Ascending order →
      prefersLogScale xs = (decide (2 ≤ order.length) && widerAbove order) :=
    fun order hperm horder => prefersLogScale_eq (hperm.trans h.symm) horder
  refine ⟨?_, hchoice⟩
  have hranked := ranked_perm ys
  have hascending := ascending_ranked ys
  rw [hchoice _ hranked hascending, prefersLogScale_eq hranked hascending]

/-- The values of one list fall, with infinities, NaNs and both zeros among them; they rise in the
other one. As they stand the falling values would be judged in another way. -/
theorem a_falling_list_is_chosen_like_a_rising_one :
    let minusOne : Double := ⟨0xbff0000000000000⟩
    let minusZero : Double := ⟨0x8000000000000000⟩
    let one : Double := ⟨0x3ff0000000000000⟩
    let two : Double := ⟨0x4000000000000000⟩
    let thousand : Double := ⟨0x408f400000000000⟩
    let falling : List Double := [.nan, thousand, ⟨0x7ff0000000000000⟩, two, one, .zero,
      ⟨0xfff8000000000001⟩, minusZero, minusOne]
    let rising : List Double :=
      [minusOne, minusZero, .zero, one, two, ⟨0xfff0000000000000⟩, thousand]
    (falling.filter Double.isFinite).Perm (rising.filter Double.isFinite) ∧
      prefersLogScale falling = true ∧ prefersLogScale rising = true ∧
      widerAbove (falling.filter Double.isFinite) = false := by
  intro minusOne minusZero one two thousand falling rising
  have hperm : (falling.filter Double.isFinite).Perm (rising.filter Double.isFinite) := by decide
  have horder : Ascending (rising.filter Double.isFinite) := by
    unfold Ascending
    decide
  obtain ⟨hsame, hchoice⟩ := a_scale_is_chosen_by_the_finite_values falling rising hperm
  have hfalling : prefersLogScale falling = true := by
    rw [hchoice _ (List.Perm.refl _) horder]
    decide +kernel
  exact ⟨hperm, hfalling, hsame.symm.trans hfalling, by decide +kernel⟩

end Grid

end AudioHost
