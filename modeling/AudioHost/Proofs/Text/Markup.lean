import AudioHost.Proofs.Text.Split
import AudioHost.Text.Markup

/-!
Characters that are written as entities and read again. A written text holds no markup character
but the marks of its entities, so in quotes it ends at the next quote, and what is read there is the
text.
-/

namespace AudioHost.Markup

variable {c : Char} {name : List Char}

/-! ## Entities -/

/-- The five entities. -/
def entities : List (Char × List Char) :=
  [('&', ['a', 'm', 'p']), ('<', ['l', 't']), ('>', ['g', 't']), ('"', ['q', 'u', 'o', 't']),
    ('\'', ['a', 'p', 'o', 's'])]

theorem mem_entities (h : entity c = some name) : (c, name) ∈ entities := by
  unfold entity at h
  split at h <;> cases h <;> simp [entities]

theorem isLower_of_entity (h : entity c = some name) : ∀ d ∈ name, d.isLower = true := by
  have hall : ∀ e ∈ entities, ∀ d ∈ e.2, d.isLower = true := by simp [entities]
  exact hall _ (mem_entities h)

theorem not_mem_name (h : entity c = some name) {d : Char} (hd : d.isLower = false) : d ∉ name := by
  intro hmem
  rw [isLower_of_entity h d hmem] at hd
  cases hd

/-- What has an entity is neither a letter nor the end of a name. -/
theorem not_letter_of_entity (h : entity c = some name) : c.isLower = false ∧ c ≠ ';' := by
  have hall : ∀ e ∈ entities, e.1.isLower = false ∧ e.1 ≠ ';' := by decide
  exact hall _ (mem_entities h)

/-- No two characters share a name. -/
theorem named_eq_some_iff : named name = some c ↔ entity c = some name := by
  constructor
  · intro h
    unfold named at h
    simpa using List.find?_some h
  · intro h
    have hall : ∀ e ∈ entities, named e.2 = some e.1 := by decide
    exact hall _ (mem_entities h)

theorem encodeChar_cases (c : Char) :
    (∃ name, entity c = some name ∧ encodeChar c = '&' :: (name ++ [';'])) ∨
      (entity c = none ∧ encodeChar c = [c]) := by
  unfold encodeChar
  cases h : entity c with
  | none => exact Or.inr ⟨rfl, rfl⟩
  | some name => exact Or.inl ⟨name, rfl, rfl⟩

theorem encode_cons (c : Char) (cs : List Char) : encode (c :: cs) = encodeChar c ++ encode cs :=
  List.flatMap_cons

/-! ## What is written -/

/-- Of the characters that have entities only the mark of an entity itself is written. -/
theorem not_mem_encode (hc : entity c = some name) (hmark : c ≠ '&') (cs : List Char) :
    c ∉ encode cs := by
  induction cs with
  | nil => exact List.not_mem_nil
  | cons d cs ih =>
    rw [encode_cons, List.mem_append, not_or]
    refine ⟨?_, ih⟩
    rcases encodeChar_cases d with ⟨other, hname, hd⟩ | ⟨hnone, hd⟩
    · obtain ⟨hsmall, hend⟩ := not_letter_of_entity hc
      rw [hd, List.mem_cons, List.mem_append, List.mem_singleton]
      rintro (h | h | h)
      · exact hmark h
      · exact not_mem_name hname hsmall h
      · exact hend h
    · rw [hd, List.mem_singleton]
      rintro rfl
      rw [hnone] at hc
      cases hc

theorem suffix_of_suffix_append {α : Type} {x : α} {rest front back : List α} (hx : x ∉ front)
    (h : x :: rest <:+ front ++ back) : x :: rest <:+ back := by
  induction front with
  | nil => exact h
  | cons y front ih =>
    rw [List.mem_cons, not_or] at hx
    rcases List.suffix_cons_iff.mp h with heq | h
    · exact absurd (List.cons.inj heq).1 hx.1
    · exact ih hx.2 h

/-- Every mark that is written begins an entity. -/
theorem entity_of_mark {cs rest : List Char} (h : '&' :: rest <:+ encode cs) :
    ∃ c name, entity c = some name ∧ name ++ [';'] <+: rest := by
  induction cs with
  | nil => cases List.suffix_nil.mp h
  | cons c cs ih =>
    rw [encode_cons] at h
    rcases encodeChar_cases c with ⟨name, hname, hc⟩ | ⟨hnone, hc⟩
    · rw [hc, List.cons_append] at h
      rcases List.suffix_cons_iff.mp h with heq | h
      · exact ⟨c, name, hname, encode cs, (List.cons.inj heq).2.symm⟩
      · apply ih
        apply suffix_of_suffix_append _ h
        simpa using not_mem_name hname (by decide)
    · apply ih
      apply suffix_of_suffix_append _ h
      rw [hc, List.mem_singleton]
      rintro rfl
      cases hnone

/-! ## What is read -/

theorem decode_cons (h : c ≠ '&') (cs : List Char) : decode (c :: cs) = c :: decode cs := by
  simp [decode, decodeFrom, h]

theorem decodeFrom_name (h : ∀ d ∈ name, d.isLower = true) (front cs : List Char) :
    decodeFrom (some front) (name ++ cs) = decodeFrom (some (name.reverse ++ front)) cs := by
  -- No letter ends the entity or begins another one, so all of them wait.
  induction name generalizing front with
  | nil => rfl
  | cons d name ih =>
    obtain ⟨hd, hname⟩ := List.forall_mem_cons.mp h
    have hend : d ≠ ';' := by
      rintro rfl
      cases hd
    have hmark : d ≠ '&' := by
      rintro rfl
      cases hd
    rw [List.cons_append, decodeFrom]
    simp only [hend, hmark, if_false]
    rw [ih hname, List.reverse_cons, List.append_assoc, List.singleton_append]

/-- A character that is written is read back, whatever stands behind it. -/
theorem decode_encodeChar (c : Char) (cs : List Char) :
    decode (encodeChar c ++ cs) = c :: decode cs := by
  rcases encodeChar_cases c with ⟨name, hname, hc⟩ | ⟨hnone, hc⟩
  · have hletters := isLower_of_entity hname
    have hnamed := named_eq_some_iff.mpr hname
    rw [hc, decode, List.cons_append, List.append_assoc, decodeFrom]
    simp only [if_true]
    rw [decodeFrom_name hletters, List.append_nil, List.singleton_append, decodeFrom]
    simp only [if_true, List.reverse_reverse, hnamed, decode]
  · rw [hc]
    apply decode_cons
    rintro rfl
    cases hnone

theorem decodeFrom_of_no_entity {front cs : List Char}
    (h : ∀ c name, entity c = some name → ¬ name ++ [';'] <+: front.reverse ++ cs) :
    decodeFrom (some front) cs = '&' :: (front.reverse ++ decode cs) := by
  induction cs generalizing front with
  | nil => simp [decodeFrom, decode]
  | cons c cs ih =>
    unfold decodeFrom
    by_cases hend : c = ';'
    · subst hend
      -- A name that ends here would be the entity that is not there.
      have hnone : named front.reverse = none := by
        by_contra hsome
        obtain ⟨e, he⟩ := Option.ne_none_iff_exists'.mp hsome
        apply h e _ (named_eq_some_iff.mp he)
        exact ⟨cs, by simp⟩
      simp [hnone, decode, decodeFrom]
    · by_cases hmark : c = '&'
      · simp [hmark, decode, decodeFrom]
      · have hnext := @ih (c :: front) (by simpa using h)
        simp [hend, hmark, hnext, decode_cons hmark]

/-- A mark that begins no entity stays. -/
theorem decode_mark {cs : List Char}
    (h : ∀ c name, entity c = some name → ¬ name ++ [';'] <+: cs) :
    decode ('&' :: cs) = '&' :: decode cs :=
  decodeFrom_of_no_entity h

theorem decode_encode (cs : List Char) : decode (encode cs) = cs := by
  induction cs with
  | nil => rfl
  | cons c cs ih => rw [encode_cons, decode_encodeChar, ih]

theorem escape_injective : Function.Injective escape := by
  intro one two h
  unfold escape at h
  have hread := congrArg decode (String.ofList_injective h)
  rwa [decode_encode, decode_encode, String.toList_inj] at hread

/-! ## Values in quotes -/

/-- Reads a value in quotes up to the next quote, and leaves the rest. -/
def quoted? : List Char → Option (List Char × List Char)
  | '"' :: cs => (Text.splitFirst? '"' cs).map fun (value, rest) => (decode value, rest)
  | _ => none

/-- A written value ends at its own closing quote. -/
theorem quoted?_encode (cs rest : List Char) :
    quoted? ('"' :: (encode cs ++ '"' :: rest)) = some (cs, rest) := by
  have hquote : '"' ∉ encode cs := not_mem_encode rfl (by decide) cs
  simp only [quoted?, Text.splitFirst?_append hquote, Option.map_some, decode_encode]

end AudioHost.Markup
