import AudioHost.Plugin.Identifier
import AudioHost.Proofs.Files.Names

/-!
Stems of libraries. A stem has neither a slash nor a backslash, and it is its own stem just if it is
bare: it has no dot but in front, or it is the way up.
-/

namespace AudioHost.Identifier

variable {cs front name : List Char}

/-! ## Last pieces -/

/-- Neither a slash nor a backslash stands in a text. -/
def Plain (cs : List Char) : Prop := '/' ∉ cs ∧ '\\' ∉ cs

theorem plain_iff : Plain cs ↔ ∀ c ∈ cs, c ≠ '/' ∧ c ≠ '\\' := by
  unfold Plain
  constructor
  · rintro ⟨hslash, hback⟩ c hc
    exact ⟨fun h => hslash (h ▸ hc), fun h => hback (h ▸ hc)⟩
  · intro h
    exact ⟨fun hc => (h _ hc).1 rfl, fun hc => (h _ hc).2 rfl⟩

theorem plain_lastPiece (cs : List Char) : Plain (lastPiece cs) := by
  rw [plain_iff]
  intro c hc
  unfold lastPiece at hc
  rw [List.mem_reverse] at hc
  simpa using List.mem_takeWhile_imp hc

theorem lastPiece_of_plain (h : Plain cs) : lastPiece cs = cs := by
  unfold lastPiece
  rw [List.takeWhile_eq_self_iff.mpr, List.reverse_reverse]
  intro c hc
  simpa using plain_iff.mp h c (List.mem_reverse.mp hc)

/-- What stands in front of a name does not belong to the last piece. -/
theorem lastPiece_append (hfront : Path.Leads front) (h : Plain name) :
    lastPiece (front ++ name) = name := by
  rcases hfront with rfl | ⟨rest, rfl⟩
  · exact lastPiece_of_plain h
  · have hname : name.reverse.takeWhile (fun c => decide (c ≠ '/' ∧ c ≠ '\\')) = name.reverse := by
      rw [← List.reverse_eq_iff]
      exact lastPiece_of_plain h
    unfold lastPiece
    simp only [List.reverse_append, List.takeWhile_append, hname]
    simp

/-! ## Stems -/

/-- A text has no ending to lose: it has no dot but in front, or it is the way up. -/
def Bare (stem : List Char) : Prop := stem = ['.', '.'] ∨ '.' ∉ stem.tail

instance (stem : List Char) : Decidable (Bare stem) :=
  inferInstanceAs (Decidable (stem = ['.', '.'] ∨ '.' ∉ stem.tail))

theorem stemOf_proper (hpiece : lastPiece cs = name) (h : Path.ProperName name) :
    stemOf cs = Path.stemOf name := by
  unfold stemOf
  rw [hpiece]
  dsimp only
  rw [Path.fileStem?_of_fileName? (Path.fileName?_ofList h), Option.getD_some]

/-- A piece that is no proper name has no stem, so it stays as it is. -/
theorem stemOf_improper (h : Plain cs) (himproper : ¬ Path.ProperName cs) : stemOf cs = cs := by
  rcases Path.improper_cases h.1 himproper with rfl | rfl | rfl <;> rfl

theorem stemOf_cases (cs : List Char) :
    (Path.ProperName (lastPiece cs) ∧ stemOf cs = Path.stemOf (lastPiece cs)) ∨
      (¬ Path.ProperName (lastPiece cs) ∧ stemOf cs = lastPiece cs) := by
  by_cases h : Path.ProperName (lastPiece cs)
  · exact Or.inl ⟨h, stemOf_proper rfl h⟩
  · have hplain := plain_lastPiece cs
    have hself := stemOf_improper hplain h
    -- The stem is that of the last piece alone.
    have hlast : stemOf (lastPiece cs) = stemOf cs := by
      unfold stemOf
      rw [lastPiece_of_plain hplain]
    exact Or.inr ⟨h, hlast.symm.trans hself⟩

theorem plain_stemOf (cs : List Char) : Plain (stemOf cs) := by
  have hplain := plain_lastPiece cs
  rcases stemOf_cases cs with ⟨_, hstem⟩ | ⟨_, hstem⟩
  · rw [hstem, plain_iff]
    exact fun c hc => plain_iff.mp hplain c (Path.mem_of_mem_stemOf hc)
  · rwa [hstem]

/-- A text without slashes is its own stem just if it is bare. -/
theorem stemOf_eq_self_iff (h : Plain cs) : stemOf cs = cs ↔ Bare cs := by
  unfold Bare
  by_cases hproper : Path.ProperName cs
  · rw [stemOf_proper (lastPiece_of_plain h) hproper, Path.stemOf_eq_self_iff]
    simp [hproper.2.2.2]
  · simp only [stemOf_improper h hproper, true_iff]
    rcases Path.improper_cases h.1 hproper with rfl | rfl | rfl <;> simp

/-- What is not bare loses what stands behind its last dot. -/
theorem stemOf_not_bare (h : Plain cs) (hbare : ¬ Bare cs) :
    ∃ ending, cs = stemOf cs ++ '.' :: ending ∧ '.' ∉ ending := by
  have hself : stemOf cs ≠ cs := fun heq => hbare ((stemOf_eq_self_iff h).mp heq)
  by_cases hproper : Path.ProperName cs
  · rw [stemOf_proper (lastPiece_of_plain h) hproper] at hself ⊢
    rcases Path.stemOf_cases cs with ⟨heq, _⟩ | ⟨ending, hcs, _, hending⟩
    · exact absurd heq hself
    · exact ⟨ending, hcs, hending⟩
  · exact absurd (stemOf_improper h hproper) hself

/-- A bare stem that is a file name is the stem of the path that it makes. -/
theorem fileStem?_of_bare (hproper : Path.ProperName cs) (hbare : Bare cs) :
    (⟨String.ofList cs⟩ : Path).fileStem? = some cs := by
  have hself : Path.stemOf cs = cs := by
    rw [Path.stemOf_eq_self_iff]
    exact hbare.resolve_left hproper.2.2.2
  rw [Path.fileStem?_of_fileName? (Path.fileName?_ofList hproper), hself]

/-! ## Canonical forms -/

theorem library_canonical (id : Identifier) : id.canonical.library = id.stem := by
  simp only [canonical]

theorem label_canonical (id : Identifier) : id.canonical.label = id.label := by
  simp only [canonical]

theorem toList_stem (id : Identifier) : id.stem.toList = stemOf id.library.toList :=
  String.toList_ofList

/-- The canonical form keeps the stem of the file name alone. -/
theorem library_canonical_of_name {id : Identifier} (hlibrary : id.library.toList = front ++ name)
    (hfront : Path.Leads front) (hproper : Path.ProperName name) (hback : '\\' ∉ name) :
    id.canonical.library = String.ofList (Path.stemOf name) := by
  have hpiece : lastPiece id.library.toList = name := by
    rw [hlibrary]
    exact lastPiece_append hfront ⟨hproper.1, hback⟩
  rw [library_canonical, ← String.toList_inj, toList_stem, stemOf_proper hpiece hproper,
    String.toList_ofList]

theorem plain_stem (id : Identifier) : Plain id.stem.toList := by
  rw [toList_stem]
  exact plain_stemOf id.library.toList

/-- The canonical form is its own canonical form just if the stem is bare. -/
theorem canonical_canonical_iff (id : Identifier) :
    id.canonical.canonical = id.canonical ↔ Bare id.stem.toList := by
  simp only [canonical, mk.injEq, true_and, and_true]
  rw [← String.toList_inj, toList_stem, stemOf_eq_self_iff (plain_stem id)]

end AudioHost.Identifier
