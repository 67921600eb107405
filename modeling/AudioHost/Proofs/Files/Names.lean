import AudioHost.Files.Path
import AudioHost.Proofs.Text.Split

/-!
Names at the end of paths, and their stems. A name that is put below a directory is the last name of
the path, and only a name that is bare is its own stem.
-/

namespace AudioHost.Path

variable {name front : List Char}

/-! ## Names in a directory -/

/-- A name that can stand in a directory: one piece that is no way to stay or to go up. -/
def ProperName (name : List Char) : Prop :=
  '/' ∉ name ∧ name ≠ [] ∧ name ≠ ['.'] ∧ name ≠ ['.', '.']

instance (name : List Char) : Decidable (ProperName name) :=
  inferInstanceAs (Decidable ('/' ∉ name ∧ name ≠ [] ∧ name ≠ ['.'] ∧ name ≠ ['.', '.']))

theorem improper_cases (hslash : '/' ∉ name) (h : ¬ ProperName name) :
    name = [] ∨ name = ['.'] ∨ name = ['.', '.'] := by
  by_contra hother
  rw [not_or, not_or] at hother
  exact h ⟨hslash, hother⟩

theorem partOf_proper (h : ProperName name) : partOf name = some (.name name) := by
  obtain ⟨_, hempty, hhere, hup⟩ := h
  simp [partOf, hempty, hhere, hup]

theorem head?_proper (h : ProperName name) : (String.ofList name).toList.head? ≠ some '/' := by
  rw [String.toList_ofList]
  exact fun hhead => h.1 (List.mem_of_head? hhead)

/-- What stands in front of a name is empty or ends with a slash. -/
def Leads (front : List Char) : Prop := front = [] ∨ ∃ rest, front = rest ++ ['/']

theorem splitAll_leads (hfront : Leads front) (hname : '/' ∉ name) :
    ∃ pieces, Text.splitAll '/' (front ++ name) = pieces ++ [name] := by
  rcases hfront with rfl | ⟨rest, rfl⟩
  · exact ⟨[], Text.splitAll_of_not_mem hname⟩
  · rw [List.append_assoc, List.singleton_append]
    exact ⟨_, Text.splitAll_last rest hname⟩

theorem fileName?_of_chars {p : Path} (hp : p.chars = front ++ name) (hfront : Leads front)
    (hname : ProperName name) : p.fileName? = some name := by
  obtain ⟨pieces, hpieces⟩ := splitAll_leads hfront hname.1
  have hlast : p.parts.getLast? = some (.name name) := by
    unfold parts
    rw [hp, hpieces]
    dsimp only
    simp [List.filterMap_append, partOf_proper hname]
  rw [fileName?, hlast]

theorem fileName?_ofList (h : ProperName name) :
    (⟨String.ofList name⟩ : Path).fileName? = some name := by
  have hchars : (⟨String.ofList name⟩ : Path).chars = [] ++ name := by simp [chars]
  exact fileName?_of_chars hchars (Or.inl rfl) h

/-- A proper name is joined behind the directory, with a slash between them if it takes one. -/
theorem chars_join (d : Path) (h : ProperName name) :
    ∃ front, (d.join (String.ofList name)).chars = front ++ name ∧ Leads front := by
  unfold join
  rw [if_neg (head?_proper h)]
  split
  · next hend =>
    refine ⟨d.text.toList, by simp [chars], ?_⟩
    rw [Bool.or_eq_true] at hend
    rcases hend with hempty | hslash
    · left
      simpa using hempty
    · right
      simp only [chars, beq_iff_eq] at hslash
      exact List.getLast?_eq_some_iff.mp hslash
  · exact ⟨d.text.toList ++ ['/'], by simp [chars], Or.inr ⟨_, rfl⟩⟩

theorem fileName?_join (d : Path) (h : ProperName name) :
    (d.join (String.ofList name)).fileName? = some name := by
  obtain ⟨front, hchars, hfront⟩ := chars_join d h
  exact fileName?_of_chars hchars hfront h

/-- The parts of a path that goes on after some pieces. -/
theorem parts_of_pieces {p q : Path} {pieces as bs : List (List Char)} (hne : pieces ≠ [])
    (hhead : q.chars.head? = p.chars.head?) (hp : Text.splitAll '/' p.chars = pieces ++ as)
    (hq : Text.splitAll '/' q.chars = pieces ++ bs) (has : as.filterMap partOf = []) :
    q.parts = p.parts ++ bs.filterMap partOf := by
  have hfirst (cs : List (List Char)) : (pieces ++ cs).head? = pieces.head? := by
    rw [List.head?_append, Option.or_of_isSome (List.isSome_head?.mpr hne)]
  simp only [parts, isAbsolute, hhead, hp, hq, hfirst, List.filterMap_append, has,
    List.append_nil, List.append_assoc]

/-- A name below a directory is one more part. -/
theorem parts_join (d : Path) (h : ProperName name) :
    (d.join (String.ofList name)).parts = d.parts ++ [.name name] := by
  have hname : [name].filterMap partOf = [.name name] := by simp [partOf_proper h]
  have hlast := fun front => Text.splitAll_last front h.1
  unfold join
  rw [if_neg (head?_proper h), ← hname]
  split
  · next hend =>
    rw [Bool.or_eq_true, String.isEmpty_iff, beq_iff_eq] at hend
    rcases hend with hempty | hslash
    · have hhead : name.head? ≠ some '/' := by simpa using head?_proper h
      simp [parts, isAbsolute, chars, hempty, Text.splitAll, Text.splitAll_of_not_mem h.1, partOf,
        hhead, h.2.2.1]
    · -- What stands after the slash is an empty piece, which the name takes the place of.
      obtain ⟨front, hfront⟩ := List.getLast?_eq_some_iff.mp hslash
      have hchars : (⟨d.text ++ String.ofList name⟩ : Path).chars = front ++ '/' :: name := by
        simpa [chars] using congrArg (· ++ name) hfront
      refine parts_of_pieces (Text.splitAll_ne_nil '/' front) ?_
        (hfront ▸ Text.splitAll_last front List.not_mem_nil) (hchars ▸ hlast front) rfl
      rw [hchars, hfront]
      cases front <;> rfl
  · next hend =>
    rw [Bool.or_eq_true, not_or, String.isEmpty_iff] at hend
    have hchars : (⟨d.text ++ "/" ++ String.ofList name⟩ : Path).chars =
        d.chars ++ '/' :: name := by
      simp [chars]
    have hne : d.chars ≠ [] := by simpa [chars] using hend.1
    refine parts_of_pieces (Text.splitAll_ne_nil '/' d.chars) ?_ (List.append_nil _).symm
      (hchars ▸ hlast d.chars) rfl
    rw [hchars, List.head?_append, Option.or_of_isSome (List.isSome_head?.mpr hne)]

/-- A file name is one piece of the path, and one that counts as a name. -/
theorem properName_of_fileName? {p : Path} (h : p.fileName? = some name) : ProperName name := by
  unfold fileName? at h
  split at h
  · next cs hlast =>
    cases h
    have hmem := List.mem_of_getLast? hlast
    unfold parts at hmem
    dsimp only at hmem
    rcases List.mem_append.mp hmem with hlead | hpart
    · -- What leads the parts is no name.
      split at hlead
      · simp at hlead
      · split at hlead <;> simp at hlead
    · obtain ⟨piece, hpiece, hpart⟩ := List.mem_filterMap.mp hpart
      unfold partOf at hpart
      split at hpart
      · cases hpart
      · next hcounts =>
        rw [not_or] at hcounts
        split at hpart
        · cases hpart
        · next hup =>
          cases hpart
          exact ⟨Text.not_mem_of_mem_splitAll hpiece, hcounts.1, hcounts.2, hup⟩
  · cases h

/-! ## Stems -/

theorem fileStem?_of_fileName? {p : Path} (h : p.fileName? = some name) :
    p.fileStem? = some (stemOf name) := by
  rw [fileStem?, h, Option.map_some]

/-- A name is cut at its last dot, unless it has none or nothing stands before it. -/
theorem stemOf_cases (name : List Char) :
    (stemOf name = name ∧ '.' ∉ name.tail) ∨
      ∃ ending, name = stemOf name ++ '.' :: ending ∧ stemOf name ≠ [] ∧ '.' ∉ ending := by
  unfold stemOf
  rcases hsplit : Text.splitLast? '.' name with _ | ⟨front, ending⟩
  · have hnone : '.' ∉ name := Text.splitLast?_eq_none_iff.mp hsplit
    exact Or.inl ⟨rfl, fun hmem => hnone (List.mem_of_mem_tail hmem)⟩
  · obtain ⟨rfl, hending⟩ := Text.splitLast?_eq_some_iff.mp hsplit
    cases front with
    | nil => exact Or.inl ⟨rfl, hending⟩
    | cons c front => exact Or.inr ⟨ending, rfl, List.cons_ne_nil c front, hending⟩

theorem stemOf_eq_self_iff : stemOf name = name ↔ '.' ∉ name.tail := by
  rcases stemOf_cases name with ⟨hself, hnone⟩ | ⟨ending, hname, hne, _⟩
  · simp [hself, hnone]
  · -- The dot stands behind something, and what follows it is lost.
    generalize stemOf name = stem at *
    subst hname
    constructor
    · intro hself
      simpa using congrArg List.length hself
    · intro hnone
      refine absurd ?_ hnone
      rw [List.tail_append_of_ne_nil hne]
      simp

theorem mem_of_mem_stemOf {c : Char} (hc : c ∈ stemOf name) : c ∈ name := by
  rcases stemOf_cases name with ⟨hself, _⟩ | ⟨ending, hname, _⟩
  · rwa [hself] at hc
  · rw [hname]
    exact List.mem_append_left _ hc

end AudioHost.Path
