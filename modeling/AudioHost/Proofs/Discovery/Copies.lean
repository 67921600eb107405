import AudioHost.Proofs.Discovery.Contributions
import AudioHost.Proofs.Discovery.Sights
import AudioHost.Proofs.Machine.Keeping

/-!
Where records come from. Each record of an enumeration is copied from an entry of the table that its
library exports, the only one of its label.
-/

namespace AudioHost

namespace Machine

variable {m m' : Machine} {kind : PluginKind} {p : Path} {k : Nat} {d : Descriptor}

/-- A descriptor is an entry of the table that the library at a path exports, and the only one of
its label. -/
def HasEntry (m : Machine) (kind : PluginKind) (p : Path) (k : Nat) (d : Descriptor) : Prop :=
  ∃ e fault t, m.load p = .ok (e, fault) ∧ e.table? kind = some t ∧ t.entries[k]? = some d ∧
    ∀ (j : Nat) (d' : Descriptor), t.entries[j]? = some d' → d'.label = d.label → j = k

theorem Keeps.hasEntry (h : Keeps m m') (hentry : m'.HasEntry kind p k d) :
    m.HasEntry kind p k d := by
  unfold HasEntry at hentry ⊢
  rw [h.load_eq p] at hentry
  exact hentry

theorem Keeps.hasEntry' (h : Keeps m m') (hentry : m.HasEntry kind p k d) :
    m'.HasEntry kind p k d := by
  unfold HasEntry at hentry ⊢
  rw [h.load_eq p]
  exact hentry

end Machine

/-! ## Candidates -/

namespace Scanner

/-- The candidates are listed files, in the order of the listing. -/
theorem sublist_accepted (passes : List (String × Verdict)) (files : List Path) :
    ((accepted passes files).map Candidate.path).Sublist files := by
  induction files generalizing passes with
  | nil => exact .slnil
  | cons p files ih =>
    unfold accepted
    split
    · exact (ih _).cons_cons p
    · exact (ih _).cons p

theorem sublist_candidates (s : Scanner) (kind : PluginKind) (m : Machine) :
    ((s.scan kind m).1.candidates.map Candidate.path).Sublist (s.listed m.files kind) := by
  unfold scan scanFiles
  dsimp only
  split
  · exact List.nil_sublist _
  · exact sublist_accepted _ _

end Scanner

/-! ## Enumerations -/

namespace Enumeration

variable {m m' : Machine} {kind : PluginKind} {c : Candidate} {cs : List Candidate} {r : Record}
variable {part : Enumeration} {uses : Nat → Nat}

/-- Enumerating a library does to a loader what checking it does. -/
theorem library_eq_check {σ : Type} (l : TableLoader σ) (kind : PluginKind) (p : Path) (s : σ) :
    (library l kind p s).2 = (l.check kind.symbol p s).2 := by
  rw [l.library_eq_visit, l.check_eq_visit]

/-- What checking libraries keeps, enumerating them keeps. -/
theorem preserves_ofLoader {σ : Type} {P : σ → Prop} {l : TableLoader σ} {kind : PluginKind}
    (hl : ∀ p s, P s → P (l.check kind.symbol p s).2) (cs : List Candidate) {s : σ} (hs : P s) :
    P (ofLoader l kind cs s).2 := by
  induction cs generalizing s with
  | nil => exact hs
  | cons c cs ih =>
    have hfirst : P (library l kind c.path s).2 := library_eq_check l kind c.path s ▸ hl _ s hs
    exact ih hfirst

theorem probed_ofCandidates (kind : PluginKind) (cs : List Candidate) (m : Machine) :
    Machine.Probed m (ofCandidates kind cs m).2 :=
  preserves_ofLoader (fun p _ hm => .check hm kind.symbol p) cs .nothing

theorem files_ofCandidates (kind : PluginKind) (cs : List Candidate) (m : Machine) :
    (ofCandidates kind cs m).2.files = m.files :=
  preserves_ofLoader (P := fun m' => m'.files = m.files)
    (fun p m' hm => (Machine.files_check m' kind.symbol p).trans hm) cs rfl

theorem table_tableLoader {o : OpenLibrary} {t : Table Descriptor}
    (h : o.exports.table? kind = some t) : Machine.tableLoader.table kind o = t := by
  cases kind with
  | ladspa =>
    obtain ⟨effects, heffects, rfl⟩ := Option.map_eq_some_iff.mp h
    simp only [TableLoader.table, Machine.tableLoader, heffects, Option.getD_some]
  | vamp =>
    obtain ⟨analysers, hanalysers, rfl⟩ := Option.map_eq_some_iff.mp h
    simp only [TableLoader.table, Machine.tableLoader, hanalysers, Option.getD_some]

/-- Labels tell the entries of a table apart. -/
theorem Readable.index_eq {ds : List Descriptor} {d d' : Descriptor} {i j : Nat}
    (h : Readable ds) (hi : ds[i]? = some d) (hj : ds[j]? = some d') (hlabel : d'.label = d.label) :
    j = i := by
  obtain ⟨hlt, _⟩ := List.getElem?_eq_some_iff.mp hj
  refine (List.getElem?_inj (by simpa using hlt) h.apart).mp ?_
  rw [List.getElem?_map, List.getElem?_map, hi, hj, Option.map_some, Option.map_some, hlabel]

/-- A record that a candidate contributes is copied from an entry of its library. -/
theorem Contributes.hasEntry (h : Contributes Machine.tableLoader kind c m part m')
    (hr : r ∈ part.records) :
    ∃ k d, m.HasEntry kind c.path k d ∧ d.record c.path = .ok r := by
  cases h with
  | unopened hopen hstatus => cases hr
  | symbolless hopen hlookup hstatus => cases hr
  | unreadable hopen hlookup hlists hnot hrefused => cases hr
  | @whole o m₁ m₂ ds records hopen hlookup hlists hall hcopied =>
    obtain ⟨i, hi, rfl⟩ := List.getElem_of_mem hr
    have hi' : i < ds.length := hcopied.length_eq.symm ▸ hi
    have hopened : m.openLibrary c.path = (.ok o, m₁) := hopen
    have hload : m.load c.path = .ok (o.exports, o.closeFault) := by
      rcases hlinker : m.linker.openAt m.files c.path with ⟨e | o', l⟩
      · simp only [Machine.openLibrary, hlinker] at hopened
        cases hopened
      · simp only [Machine.openLibrary, hlinker] at hopened
        cases hopened
        exact Linker.load_of_openAt hlinker
    have hfound : o.lookup kind.symbol = .ok () := congrArg Prod.fst hlookup
    obtain ⟨t, ht⟩ := Option.isSome_iff_exists.mp (OpenLibrary.table_of_lookup hfound)
    rw [table_tableLoader ht] at hlists
    obtain rfl := hlists.eq_entries
    refine ⟨i, t.entries[i], ⟨o.exports, o.closeFault, t, hload, ht, List.getElem?_eq_getElem hi',
      fun j d' hj hlabel => ?_⟩, List.Forall₂.get hcopied hi' hi⟩
    exact hall.index_eq (List.getElem?_eq_getElem hi') hj hlabel

/-- Every record of an enumeration is copied from an entry of the library of a candidate. -/
theorem hasEntry_of_mem (hs : m.linker.Sound uses)
    (hr : r ∈ (ofCandidates kind cs m).1.records) :
    ∃ c ∈ cs, ∃ k d, m.HasEntry kind c.path k d ∧ d.record c.path = .ok r := by
  induction cs generalizing m with
  | nil => cases hr
  | cons c cs ih =>
    rcases List.mem_append.mp hr with hr | hr
    · exact ⟨c, List.mem_cons_self,
        (contributes_library Machine.tableLoader kind c m).hasEntry hr⟩
    · -- The library is closed again, so the next ones are what they were before.
      have hsame : (library Machine.tableLoader kind c.path m).2 =
          (Machine.loader.check kind.symbol c.path m).2 := library_eq_check _ kind c.path m
      have hchecked := Machine.spares_check hs kind.symbol c.path
      rw [← hsame] at hchecked
      have hkeeps := hchecked.1.keeps (by rw [hsame, Machine.files_check])
      obtain ⟨c', hc', k, d, hentry, hcopied⟩ := ih hchecked.2 hr
      exact ⟨c', List.mem_cons_of_mem c hc', k, d, hkeeps.hasEntry hentry, hcopied⟩

end Enumeration

end AudioHost
