import Mathlib.Data.List.TakeWhile
import AudioHost.Text.Split

/-!
Rows of characters that are cut at separators: what stands before and after a separator comes back.
-/

namespace AudioHost.Text

variable {sep : Char}

theorem splitFirst?_append {front : List Char} (h : sep ∉ front) (back : List Char) :
    splitFirst? sep (front ++ sep :: back) = some (front, back) := by
  induction front with
  | nil => simp [splitFirst?]
  | cons c front ih =>
    rw [List.mem_cons, not_or] at h
    simp [splitFirst?, Ne.symm h.1, ih h.2]

theorem splitLast?_append {back : List Char} (h : sep ∉ back) (front : List Char) :
    splitLast? sep (front ++ sep :: back) = some (front, back) := by
  have hreversed : (front ++ sep :: back).reverse = back.reverse ++ sep :: front.reverse := by simp
  have hback : sep ∉ back.reverse := fun hmem => h (List.mem_reverse.mp hmem)
  rw [splitLast?, hreversed, splitFirst?_append hback]
  simp

/-- What is cut at the first separator is put together again by it. -/
theorem splitFirst?_eq_some_iff {cs front back : List Char} :
    splitFirst? sep cs = some (front, back) ↔ cs = front ++ sep :: back ∧ sep ∉ front := by
  refine ⟨fun h => ?_, fun ⟨hcs, hfront⟩ => hcs ▸ splitFirst?_append hfront back⟩
  induction cs generalizing front with
  | nil => cases h
  | cons c cs ih =>
    unfold splitFirst? at h
    split at h
    · next heq =>
      cases h
      exact ⟨congrArg (· :: back) heq, List.not_mem_nil⟩
    · next hne =>
      obtain ⟨⟨front', back'⟩, hrest, hpair⟩ := Option.map_eq_some_iff.mp h
      cases hpair
      obtain ⟨rfl, hfront⟩ := ih hrest
      rw [List.mem_cons, not_or]
      exact ⟨rfl, Ne.symm hne, hfront⟩

/-- What is cut at the last separator is put together again by it. -/
theorem splitLast?_eq_some_iff {cs front back : List Char} :
    splitLast? sep cs = some (front, back) ↔ cs = front ++ sep :: back ∧ sep ∉ back := by
  refine ⟨fun h => ?_, fun ⟨hcs, hback⟩ => hcs ▸ splitLast?_append hback front⟩
  obtain ⟨⟨back', front'⟩, hsplit, hpair⟩ := Option.map_eq_some_iff.mp h
  cases hpair
  obtain ⟨hreversed, hback⟩ := splitFirst?_eq_some_iff.mp hsplit
  refine ⟨?_, fun hmem => hback (List.mem_reverse.mp hmem)⟩
  rw [← List.reverse_reverse cs, hreversed]
  simp

theorem splitFirst?_eq_none_iff {cs : List Char} : splitFirst? sep cs = none ↔ sep ∉ cs := by
  induction cs with
  | nil => simp [splitFirst?]
  | cons c cs ih =>
    unfold splitFirst?
    by_cases hc : c = sep
    · simp [hc]
    · simp [hc, ih, Ne.symm hc]

theorem splitLast?_eq_none_iff {cs : List Char} : splitLast? sep cs = none ↔ sep ∉ cs := by
  rw [splitLast?, Option.map_eq_none_iff, splitFirst?_eq_none_iff, List.mem_reverse]

theorem splitAtMost_append {front : List Char} (h : sep ∉ front) (n : Nat) (back : List Char) :
    splitAtMost sep (n + 2) (front ++ sep :: back) = front :: splitAtMost sep (n + 1) back := by
  rw [splitAtMost, splitFirst?_append h]

/-! ## All pieces -/

theorem splitAll_ne_nil (sep : Char) (cs : List Char) : splitAll sep cs ≠ [] := by
  cases cs with
  | nil => exact List.cons_ne_nil _ _
  | cons c cs =>
    unfold splitAll
    split
    · exact List.cons_ne_nil _ _
    · split <;> exact List.cons_ne_nil _ _

/-- A character at the end belongs to the last piece. -/
theorem splitAll_concat {c : Char} (h : c ≠ sep) (cs : List Char) :
    ∃ front last, splitAll sep cs = front ++ [last] ∧
      splitAll sep (cs ++ [c]) = front ++ [last ++ [c]] := by
  induction cs with
  | nil => exact ⟨[], [], rfl, by simp [splitAll, h]⟩
  | cons d cs ih =>
    obtain ⟨front, last, hbefore, hafter⟩ := ih
    rw [List.cons_append]
    unfold splitAll
    rw [hbefore, hafter]
    split
    · exact ⟨[] :: front, last, rfl, rfl⟩
    · cases front with
      | nil => exact ⟨[], d :: last, rfl, rfl⟩
      | cons piece front => exact ⟨(d :: piece) :: front, last, rfl, rfl⟩

theorem splitAll_append {front : List Char} (h : sep ∉ front) (back : List Char) :
    splitAll sep (front ++ sep :: back) = front :: splitAll sep back := by
  induction front with
  | nil => rw [List.nil_append, splitAll, if_pos rfl]
  | cons c front ih =>
    rw [List.mem_cons, not_or] at h
    rw [List.cons_append, splitAll, if_neg (Ne.symm h.1), ih h.2]

theorem splitAll_of_not_mem {cs : List Char} (h : sep ∉ cs) : splitAll sep cs = [cs] := by
  induction cs with
  | nil => rfl
  | cons c cs ih =>
    rw [List.mem_cons, not_or] at h
    rw [splitAll, if_neg (Ne.symm h.1), ih h.2]

/-- Pieces that are put together by separators come back. -/
theorem splitAll_intercalate {pieces : List (List Char)} (hne : pieces ≠ [])
    (h : ∀ piece ∈ pieces, sep ∉ piece) : splitAll sep ([sep].intercalate pieces) = pieces := by
  induction pieces with
  | nil => exact absurd rfl hne
  | cons piece pieces ih =>
    obtain ⟨hpiece, hpieces⟩ := List.forall_mem_cons.mp h
    cases pieces with
    | nil => rw [List.intercalate_singleton, splitAll_of_not_mem hpiece]
    | cons next pieces =>
      rw [List.intercalate_cons_cons, List.append_assoc, List.singleton_append,
        splitAll_append hpiece, ih (List.cons_ne_nil _ _) hpieces]

/-- What follows the last separator is the last piece. -/
theorem splitAll_last {last : List Char} (front : List Char) (h : sep ∉ last) :
    splitAll sep (front ++ sep :: last) = splitAll sep front ++ [last] := by
  induction front with
  | nil => simp [splitAll, splitAll_of_not_mem h]
  | cons c front ih =>
    rw [List.cons_append, splitAll, splitAll, ih]
    split
    · rfl
    · cases hpieces : splitAll sep front with
      | nil => exact absurd hpieces (splitAll_ne_nil sep front)
      | cons piece pieces => rfl

/-- Rows without line ends come back as the lines of a text that has each on a line of its own. -/
theorem lines_flatMap {rows : List (List Char)} (h : ∀ row ∈ rows, '\n' ∉ row ∧ '\r' ∉ row) :
    lines (rows.flatMap fun row => row ++ ['\n']) = rows := by
  have hpieces : splitAll '\n' (rows.flatMap fun row => row ++ ['\n']) = rows ++ [[]] := by
    induction rows with
    | nil => rfl
    | cons row rows ih =>
      obtain ⟨hrow, hrows⟩ := List.forall_mem_cons.mp h
      rw [List.flatMap_cons, List.append_assoc, List.singleton_append, splitAll_append hrow.1,
        ih hrows, List.cons_append]
  have hends : rows.map (dropLastIf '\r') = rows := by
    refine (List.map_congr_left fun row hrow => ?_).trans (List.map_id rows)
    exact if_neg fun hlast => (h row hrow).2 (List.mem_of_getLast? hlast)
  simp only [lines, hpieces, List.dropLast_concat, hends, List.getLast?_concat, List.append_nil]

theorem mem_of_mem_splitAll {cs piece : List Char} {c : Char} (hpiece : piece ∈ splitAll sep cs)
    (hc : c ∈ piece) : c ∈ cs := by
  induction cs generalizing piece with
  | nil =>
    rw [splitAll, List.mem_singleton] at hpiece
    rw [hpiece] at hc
    cases hc
  | cons d cs ih =>
    unfold splitAll at hpiece
    split at hpiece
    · rcases List.mem_cons.mp hpiece with rfl | hpiece
      · cases hc
      · exact List.mem_cons_of_mem d (ih hpiece hc)
    · split at hpiece
      · next hnone => exact absurd hnone (splitAll_ne_nil sep cs)
      · next first pieces heq =>
        rcases List.mem_cons.mp hpiece with rfl | hpiece
        · rcases List.mem_cons.mp hc with rfl | hc
          · exact List.mem_cons_self
          · exact List.mem_cons_of_mem d (ih (heq ▸ List.mem_cons_self) hc)
        · exact List.mem_cons_of_mem d (ih (heq ▸ List.mem_cons_of_mem first hpiece) hc)

theorem not_mem_of_mem_splitAll {cs piece : List Char} (hpiece : piece ∈ splitAll sep cs) :
    sep ∉ piece := by
  induction cs generalizing piece with
  | nil =>
    rw [splitAll, List.mem_singleton] at hpiece
    simp [hpiece]
  | cons d cs ih =>
    unfold splitAll at hpiece
    split at hpiece
    · rcases List.mem_cons.mp hpiece with rfl | hpiece
      · exact List.not_mem_nil
      · exact ih hpiece
    · next hd =>
      split at hpiece
      · next hnone => exact absurd hnone (splitAll_ne_nil sep cs)
      · next first pieces heq =>
        rw [heq] at ih
        rcases List.mem_cons.mp hpiece with rfl | hpiece
        · -- The piece got one more character in front, which is no separator.
          rw [List.mem_cons, not_or]
          exact ⟨fun h => hd h.symm, ih List.mem_cons_self⟩
        · exact ih (List.mem_cons_of_mem first hpiece)

/-! ## Around a mark -/

theorem afterPrefix?_eq_some_iff {mark cs back : List Char} :
    afterPrefix? mark cs = some back ↔ cs = mark ++ back := by
  induction mark generalizing cs with
  | nil => simp [afterPrefix?]
  | cons m mark ih =>
    cases cs with
    | nil => simp [afterPrefix?]
    | cons c cs =>
      unfold afterPrefix?
      by_cases hc : m = c
      · rw [if_pos hc, ih, hc]
        simp
      · rw [if_neg hc]
        simp [Ne.symm hc]

/-- A text is cut around the first place where the mark stands. -/
theorem splitAround?_eq_some_iff {mark cs front back : List Char} :
    splitAround? mark cs = some (front, back) ↔ cs = front ++ mark ++ back ∧
      ∀ front' back', cs = front' ++ mark ++ back' → front.length ≤ front'.length := by
  induction cs generalizing front with
  | nil =>
    unfold splitAround?
    cases mark with
    | nil => cases front <;> cases back <;> simp
    | cons m mark => simp
  | cons c cs ih =>
    unfold splitAround?
    rcases hmark : afterPrefix? mark (c :: cs) with _ | here
    · -- The mark does not stand in front, so every place of it lies behind the first character.
      have hlater : ∀ front' back', c :: cs = front' ++ mark ++ back' →
          ∃ rest, front' = c :: rest ∧ cs = rest ++ mark ++ back' := by
        intro front' back' h
        cases front' with
        | nil =>
          rw [List.nil_append] at h
          rw [afterPrefix?_eq_some_iff.mpr h] at hmark
          cases hmark
        | cons d rest =>
          obtain ⟨rfl, hcs⟩ := List.cons.inj h
          exact ⟨rest, rfl, hcs⟩
      constructor
      · intro h
        obtain ⟨⟨rest, back'⟩, hrest, hpair⟩ := Option.map_eq_some_iff.mp h
        cases hpair
        obtain ⟨hcs, hfirst⟩ := ih.mp hrest
        refine ⟨by rw [hcs]; rfl, fun front' back' h => ?_⟩
        obtain ⟨rest', rfl, hcs'⟩ := hlater front' back' h
        have hle := hfirst rest' back' hcs'
        simpa using hle
      · rintro ⟨h, hfirst⟩
        obtain ⟨rest, rfl, hcs⟩ := hlater front back h
        refine Option.map_eq_some_iff.mpr ⟨(rest, back), ih.mpr ⟨hcs, ?_⟩, rfl⟩
        intro front' back' h'
        have hle := hfirst (c :: front') back' (by rw [h']; rfl)
        simpa using hle
    · rw [afterPrefix?_eq_some_iff] at hmark
      rw [hmark]
      dsimp only
      rw [Option.some.injEq, Prod.mk.injEq]
      constructor
      · rintro ⟨rfl, rfl⟩
        exact ⟨rfl, fun _ _ _ => Nat.zero_le _⟩
      · rintro ⟨h, hfirst⟩
        have hnil : front = [] :=
          List.eq_nil_of_length_eq_zero (Nat.le_zero.mp (hfirst [] here rfl))
        subst hnil
        exact ⟨rfl, List.append_cancel_left h⟩

/-! ## White space -/

theorem trim_eq_nil_iff {cs : List Char} : trim cs = [] ↔ ∀ c ∈ cs, isBlank c = true := by
  unfold trim
  rw [List.reverse_eq_nil_iff, List.dropWhile_eq_nil_iff]
  simp only [List.mem_reverse]
  constructor
  · intro h c hc
    by_cases hmem : c ∈ cs.dropWhile isBlank
    · exact h c hmem
    · have hsplit := List.takeWhile_append_dropWhile (p := isBlank) (l := cs)
      rw [← hsplit, List.mem_append] at hc
      exact List.mem_takeWhile_imp (hc.resolve_right hmem)
  · intro h c hc
    exact h c ((List.dropWhile_suffix isBlank).subset hc)

end AudioHost.Text
