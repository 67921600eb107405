import Mathlib.Data.List.Forall2
import Mathlib.Data.List.Nodup
import AudioHost.Discovery.Enumeration
import AudioHost.Proofs.Native.Tables

/-!
What libraries contribute to an enumeration. A library whose whole table can be read contributes a
record for each entry, and any other library contributes nothing but one failure.
-/

namespace AudioHost

theorem TableLoader.kind_of_mem {σ : Type} {l : TableLoader σ} {kind : PluginKind}
    {library : l.Library} {d : Descriptor} (hd : d ∈ (l.table kind library).items) :
    d.kind = kind := by
  cases kind with
  | ladspa => exact Table.kind_of_mem_map (f := .effect) (fun _ => rfl) hd
  | vamp => exact Table.kind_of_mem_map (f := .analyser) (fun _ => rfl) hd

namespace Enumeration

variable {σ : Type}

/-! ## Reading a table -/

/-- Descriptors from which records can be copied, and whose labels are all different. -/
structure Readable (ds : List Descriptor) : Prop where
  apart : (ds.map Descriptor.label).Nodup
  sound : ∀ d ∈ ds, d.Sound

/-- Why descriptors cannot be read. The first one counts that has the label of an earlier one, or
from which no record can be copied. -/
inductive Refused (p : Path) (ds : List Descriptor) : PluginError → Prop
  | again {i j : Nat} {d d' : Descriptor} (hbefore : Readable (ds.take j))
    (hfirst : (ds.take j)[i]? = some d) (hsecond : ds[j]? = some d') (hlabel : d.label = d'.label) :
    Refused p ds (.duplicateDescriptor p d'.label i j)
  | malformed {j : Nat} {d : Descriptor} {fault : DescriptorFault} (hbefore : Readable (ds.take j))
    (hnew : d.label ∉ (ds.take j).map Descriptor.label) (hbad : ds[j]? = some d)
    (hrecord : d.record p = .error (.malformedDescriptor p fault)) :
    Refused p ds (.malformedDescriptor p fault)

/-- The status that goes with an error. A library that cannot be loaded has one of its own, and so
has one in which a symbol is missing; for any other error there is one status. -/
inductive Faulted : PluginError → Status → Prop
  | load (p : Path) (reason : String) : Faulted (.loadFailure p reason) .failedToLoadLibrary
  | symbol (p : Path) (name : String) : Faulted (.symbolMissing p name) .failedToFindDescriptor
  | other {e : PluginError} (hload : ∀ p reason, e ≠ .loadFailure p reason)
    (hsymbol : ∀ p name, e ≠ .symbolMissing p name) : Faulted e .failedElsewhere

theorem faulted_statusOf (e : PluginError) : Faulted e (statusOf e) := by
  cases e with
  | loadFailure p reason => exact .load p reason
  | symbolMissing p name => exact .symbol p name
  | _ => exact .other (fun _ _ h => nomatch h) (fun _ _ h => nomatch h)

theorem Refused.statusOf_eq {p : Path} {ds : List Descriptor} {e : PluginError}
    (h : Refused p ds e) : statusOf e = .failedElsewhere := by
  cases h <;> rfl

/-- The labels that were seen are the ones of the descriptors so far, with their indices. -/
structure Remembers (seen : List (String × Nat)) (ds : List Descriptor) : Prop where
  found : ∀ label i, seen.lookup label = some i → (ds.map Descriptor.label)[i]? = some label
  missed : ∀ label, seen.lookup label = none → label ∉ ds.map Descriptor.label

variable {seen : List (String × Nat)} {before ds : List Descriptor} {d : Descriptor} {p : Path}

theorem readable_nil : Readable [] where
  apart := .nil
  sound _ h := by cases h

theorem remembers_nil : Remembers [] [] where
  found _ _ h := by cases h
  missed _ _ h := by cases h

theorem Remembers.snoc (h : Remembers seen before) (d : Descriptor) :
    Remembers ((d.label, before.length) :: seen) (before ++ [d]) where
  found label i hi := by
    rw [List.map_append]
    by_cases heq : label = d.label
    · subst heq
      rw [List.lookup_cons_self] at hi
      cases hi
      rw [List.getElem?_append_right (by simp)]
      simp
    · have hne : (label == d.label) = false := by simpa using heq
      rw [List.lookup_cons, hne] at hi
      have hfound := h.found label i hi
      obtain ⟨hlt, _⟩ := List.getElem?_eq_some_iff.mp hfound
      rw [List.getElem?_append_left hlt]
      exact hfound
  missed label hnone := by
    rw [List.map_append, List.mem_append, not_or]
    by_cases heq : label = d.label
    · subst heq
      rw [List.lookup_cons_self] at hnone
      cases hnone
    · have hne : (label == d.label) = false := by simpa using heq
      rw [List.lookup_cons, hne] at hnone
      exact ⟨h.missed label hnone, by simpa using heq⟩

theorem Readable.snoc (h : Readable before) (hnew : d.label ∉ before.map Descriptor.label)
    (hsound : d.Sound) : Readable (before ++ [d]) where
  apart := by
    rw [List.map_append, List.nodup_append]
    refine ⟨h.apart, by simp, ?_⟩
    intro a ha b hb heq
    rw [List.map_singleton, List.mem_singleton] at hb
    exact hnew (hb ▸ heq ▸ ha)
  sound x hx := by
    rcases List.mem_append.mp hx with hx | hx
    · exact h.sound x hx
    · rw [List.mem_singleton.mp hx]
      exact hsound

theorem Readable.new (h : Readable (before ++ d :: ds)) :
    d.label ∉ before.map Descriptor.label := by
  have hapart := h.apart
  rw [List.map_append, List.map_cons, List.nodup_append] at hapart
  exact fun hearlier => hapart.2.2 d.label hearlier d.label List.mem_cons_self rfl

/-- Reading goes on from descriptors that were read. It copies a record from each descriptor, or it
stops at the first one that is refused. -/
theorem recordsFrom_cases (hbefore : Readable before) (hseen : Remembers seen before)
    (ds : List Descriptor) :
    (Readable (before ++ ds) ∧ ∃ rs, recordsFrom p seen before.length ds = .ok rs ∧
        List.Forall₂ (fun d r => d.record p = .ok r) ds rs) ∨
      (¬ Readable (before ++ ds) ∧ ∃ e, recordsFrom p seen before.length ds = .error e ∧
        Refused p (before ++ ds) e) := by
  induction ds generalizing before seen with
  | nil =>
    rw [List.append_nil]
    exact Or.inl ⟨hbefore, [], rfl, .nil⟩
  | cons d ds ih =>
    have htake : (before ++ d :: ds).take before.length = before := by simp
    have hget : (before ++ d :: ds)[before.length]? = some d := by simp
    have hmem : d ∈ before ++ d :: ds := by simp
    unfold recordsFrom
    rcases hlookup : seen.lookup d.label with _ | i
    · have hnew := hseen.missed d.label hlookup
      rcases hrecord : d.record p with e | r
      · -- No record can be copied from this descriptor.
        obtain ⟨hunsound, fault, rfl⟩ := Descriptor.malformed_of_record hrecord
        refine Or.inr ⟨fun hall => hunsound (hall.sound d hmem), _, rfl, ?_⟩
        refine .malformed (j := before.length) (d := d) ?_ ?_ hget hrecord
        · rwa [htake]
        · rwa [htake]
      · -- The descriptor is read, and the rest goes on from it.
        obtain ⟨hsound, _⟩ := Descriptor.sound_of_record hrecord
        have hrest := ih (hbefore.snoc hnew hsound) (hseen.snoc d)
        have hlength : (before ++ [d]).length = before.length + 1 := by simp
        rw [List.append_assoc, List.singleton_append, hlength] at hrest
        obtain ⟨hall, rs, hrs, hcopied⟩ | ⟨hnot, e, he, hrefused⟩ := hrest
        · refine Or.inl ⟨hall, r :: rs, ?_, .cons hrecord hcopied⟩
          simp only [hrs, Except.map]
        · refine Or.inr ⟨hnot, e, ?_, hrefused⟩
          simp only [he, Except.map]
    · -- An earlier descriptor has the label.
      have hfound := hseen.found d.label i hlookup
      rw [List.getElem?_map, Option.map_eq_some_iff] at hfound
      obtain ⟨d', hd', hlabel⟩ := hfound
      refine Or.inr ⟨fun hall => ?_, _, rfl, ?_⟩
      · exact hall.new (List.mem_map.mpr ⟨d', List.mem_of_getElem? hd', hlabel⟩)
      · refine .again (i := i) (j := before.length) (d := d') ?_ ?_ hget hlabel
        · rwa [htake]
        · rwa [htake]

/-! ## One library -/

/-- What a candidate contributes, and what its opening and closing make of the loader. It
contributes nothing but a failure with the status that goes with the error, unless it opens, has the
symbol of the kind, and has a table whose descriptors can all be read. -/
inductive Contributes (l : TableLoader σ) (kind : PluginKind) (c : Candidate) (s : σ) :
    Enumeration → σ → Prop
  | unopened {e : PluginError} {status : Status} {s' : σ}
    (hopen : l.openAt c.path s = (.error e, s')) (hstatus : Faulted e status) :
    Contributes l kind c s ⟨[], [], [⟨kind, c.path, c.tag, status, e.message⟩]⟩ s'
  | symbolless {library : l.Library} {s₁ s₂ : σ} {e : PluginError} {status : Status}
    (hopen : l.openAt c.path s = (.ok library, s₁))
    (hlookup : l.lookup kind.symbol library s₁ = (.error e, s₂)) (hstatus : Faulted e status) :
    Contributes l kind c s ⟨[], [], [⟨kind, c.path, c.tag, status, e.message⟩]⟩
      (l.close library s₂).2
  | unreadable {library : l.Library} {s₁ s₂ : σ} {ds : List Descriptor} {e : PluginError}
    (hopen : l.openAt c.path s = (.ok library, s₁))
    (hlookup : l.lookup kind.symbol library s₁ = (.ok (), s₂))
    (hlists : (l.table kind library).Lists ds) (hnot : ¬ Readable ds)
    (hrefused : Refused c.path ds e) :
    Contributes l kind c s ⟨[], [], [⟨kind, c.path, c.tag, .failedElsewhere, e.message⟩]⟩
      (l.close library s₂).2
  | whole {library : l.Library} {s₁ s₂ : σ} {ds : List Descriptor} {records : List Record}
    (hopen : l.openAt c.path s = (.ok library, s₁))
    (hlookup : l.lookup kind.symbol library s₁ = (.ok (), s₂))
    (hlists : (l.table kind library).Lists ds) (hall : Readable ds)
    (hcopied : List.Forall₂ (fun d r => d.record c.path = .ok r) ds records) :
    Contributes l kind c s ⟨records.map Record.identifier, records, []⟩ (l.close library s₂).2

variable {l : TableLoader σ} {kind : PluginKind} {c : Candidate} {cs : List Candidate} {s : σ}

/-- What candidates contribute, one after another. -/
inductive ContributeAll (l : TableLoader σ) (kind : PluginKind) :
    List Candidate → σ → List Enumeration → σ → Prop
  | done {s : σ} : ContributeAll l kind [] s [] s
  | next {c : Candidate} {cs : List Candidate} {s s₁ s₂ : σ} {part : Enumeration}
    {parts : List Enumeration} (hfirst : Contributes l kind c s part s₁)
    (hrest : ContributeAll l kind cs s₁ parts s₂) :
    ContributeAll l kind (c :: cs) s (part :: parts) s₂

theorem contributes_library (l : TableLoader σ) (kind : PluginKind) (c : Candidate) (s : σ) :
    Contributes l kind c s (contribution kind c (library l kind c.path s).1)
      (library l kind c.path s).2 := by
  unfold library
  rcases hopen : l.openAt c.path s with ⟨e | library, s₁⟩
  · exact .unopened hopen (faulted_statusOf e)
  · dsimp only
    unfold recordsOf
    rcases hlookup : l.lookup kind.symbol library s₁ with ⟨e | ⟨⟩, s₂⟩
    · exact .symbolless hopen hlookup (faulted_statusOf e)
    · dsimp only
      have hlists := (l.table kind library).lists_entries
      obtain ⟨hall, records, hread, hcopied⟩ | ⟨hnot, e, hread, hrefused⟩ :=
        recordsFrom_cases (p := c.path) readable_nil remembers_nil (l.table kind library).entries
      · rw [List.length_nil] at hread
        rw [hread]
        exact .whole hopen hlookup hlists hall hcopied
      · rw [List.length_nil] at hread
        rw [hread, contribution, hrefused.statusOf_eq]
        exact .unreadable hopen hlookup hlists hnot hrefused

/-! ## Identifiers -/

/-- The identifiers of records that were copied from descriptors of a library. -/
theorem identifiers_of_copied {ds : List Descriptor} {records : List Record} {p : Path}
    (hkind : ∀ d ∈ ds, d.kind = kind)
    (h : List.Forall₂ (fun d r => d.record p = .ok r) ds records) :
    records.map Record.identifier = ds.map fun d => ⟨kind, p.text, d.label⟩ := by
  induction h with
  | nil => rfl
  | @cons d r ds records hd _ ih =>
    have hid := (Descriptor.sound_of_record hd).2
    rw [hkind d List.mem_cons_self] at hid
    rw [List.map_cons, List.map_cons, hid, ih fun d hd => hkind d (List.mem_cons_of_mem _ hd)]

/-- The identifiers in one part of an enumeration. -/
structure Named (kind : PluginKind) (c : Candidate) (part : Enumeration) : Prop where
  ofRecords : part.identifiers = part.records.map Record.identifier
  apart : part.identifiers.Nodup
  kind : ∀ id ∈ part.identifiers, id.kind = kind
  library : ∀ id ∈ part.identifiers, id.library = c.path.text
  proper : ∀ id ∈ part.identifiers, Identifier.ProperLabel id.label

theorem named_nothing (kind : PluginKind) (c : Candidate) (failures : List ScanFailure) :
    Named kind c ⟨[], [], failures⟩ where
  ofRecords := rfl
  apart := .nil
  kind _ h := by cases h
  library _ h := by cases h
  proper _ h := by cases h

theorem Contributes.named {part : Enumeration} {s' : σ} (h : Contributes l kind c s part s') :
    Named kind c part := by
  cases h with
  | unopened hopen hstatus => exact named_nothing kind c _
  | symbolless hopen hlookup hstatus => exact named_nothing kind c _
  | unreadable hopen hlookup hlists hnot hrefused => exact named_nothing kind c _
  | @whole _ _ _ ds records hopen hlookup hlists hall hcopied =>
    have hids := identifiers_of_copied
      (fun d hd => TableLoader.kind_of_mem (hlists.mem_items hd)) hcopied
    have hof : ∀ id ∈ records.map Record.identifier, ∃ d ∈ ds,
        Identifier.mk kind c.path.text d.label = id :=
      fun id hid => List.mem_map.mp (hids ▸ hid)
    refine ⟨rfl, ?_, fun id hid => ?_, fun id hid => ?_, fun id hid => ?_⟩
    · rw [hids]
      refine List.Nodup.of_map Identifier.label ?_
      rw [List.map_map]
      exact hall.apart
    · obtain ⟨d, _, rfl⟩ := hof id hid
      rfl
    · obtain ⟨d, _, rfl⟩ := hof id hid
      rfl
    · obtain ⟨d, hd, rfl⟩ := hof id hid
      exact (hall.sound d hd).1

/-! ## All libraries -/

/-- All that some parts give, in order. -/
def gathered (parts : List Enumeration) : Enumeration :=
  ⟨parts.flatMap Enumeration.identifiers, parts.flatMap Enumeration.records,
    parts.flatMap Enumeration.failures⟩

theorem contributeAll_ofLoader (l : TableLoader σ) (kind : PluginKind) (cs : List Candidate)
    (s : σ) : ∃ parts, ContributeAll l kind cs s parts (ofLoader l kind cs s).2 ∧
      (ofLoader l kind cs s).1 = gathered parts := by
  induction cs generalizing s with
  | nil => exact ⟨[], .done, rfl⟩
  | cons c cs ih =>
    obtain ⟨parts, hrest, hgathered⟩ := ih (library l kind c.path s).2
    refine ⟨_, .next (contributes_library l kind c s) hrest, ?_⟩
    simp only [ofLoader, hgathered]
    rfl

theorem ContributeAll.named {parts : List Enumeration} {s' : σ}
    (h : ContributeAll l kind cs s parts s') : List.Forall₂ (Named kind) cs parts := by
  induction h with
  | done => exact .nil
  | next hfirst _ ih => exact .cons hfirst.named ih

theorem identifiers_gathered {parts : List Enumeration} (h : List.Forall₂ (Named kind) cs parts) :
    (gathered parts).identifiers = (gathered parts).records.map Record.identifier := by
  induction h with
  | nil => rfl
  | cons hfirst _ ih =>
    simp only [gathered, List.flatMap_cons, List.map_append] at ih ⊢
    rw [hfirst.ofRecords, ih]

theorem named_of_mem {parts : List Enumeration} (h : List.Forall₂ (Named kind) cs parts)
    {id : Identifier} (hid : id ∈ (gathered parts).identifiers) :
    id.kind = kind ∧ Identifier.ProperLabel id.label ∧
      id.library ∈ cs.map fun c => c.path.text := by
  induction h with
  | nil => cases hid
  | @cons c part cs parts hfirst _ ih =>
    rw [gathered, List.flatMap_cons, List.mem_append] at hid
    rw [List.map_cons, List.mem_cons]
    rcases hid with hid | hid
    · exact ⟨hfirst.kind id hid, hfirst.proper id hid, Or.inl (hfirst.library id hid)⟩
    · obtain ⟨hkind, hproper, hlibrary⟩ := ih hid
      exact ⟨hkind, hproper, Or.inr hlibrary⟩

/-- Identifiers of different libraries differ, and those of one library do. -/
theorem nodup_gathered {parts : List Enumeration} (h : List.Forall₂ (Named kind) cs parts)
    (hpaths : (cs.map fun c => c.path.text).Nodup) : (gathered parts).identifiers.Nodup := by
  induction h with
  | nil => exact .nil
  | @cons c part cs parts hfirst hrest ih =>
    rw [List.map_cons, List.nodup_cons] at hpaths
    rw [gathered, List.flatMap_cons, List.nodup_append]
    refine ⟨hfirst.apart, ih hpaths.2, ?_⟩
    rintro id hid _ hlater rfl
    have hlibrary := (named_of_mem hrest hlater).2.2
    rw [hfirst.library id hid] at hlibrary
    exact hpaths.1 hlibrary

/-! ## The law -/

/-- An enumeration is what its candidates contribute, in order: each contributes all of its records
or none, and then one failure. The identifiers are those of the records. They come back from their
texts, and none occurs twice if the candidates have different texts. -/
theorem a_library_contributes_all_or_nothing (l : TableLoader σ) (kind : PluginKind)
    (cs : List Candidate) (s : σ) :
    let e := (ofLoader l kind cs s).1
    (∃ parts, ContributeAll l kind cs s parts (ofLoader l kind cs s).2 ∧ e = gathered parts) ∧
      e.identifiers = e.records.map Record.identifier ∧
      ((cs.map fun c => c.path.text).Nodup → e.identifiers.Nodup) ∧
      ∀ id ∈ e.identifiers, id.kind = kind ∧ Identifier.ofText id.text = .ok id := by
  intro e
  obtain ⟨parts, hall, hgathered⟩ := contributeAll_ofLoader l kind cs s
  have he : e = gathered parts := hgathered
  rw [he]
  refine ⟨⟨parts, hall, rfl⟩, identifiers_gathered hall.named, nodup_gathered hall.named, ?_⟩
  intro id hid
  obtain ⟨hkind, hproper, _⟩ := named_of_mem hall.named hid
  exact ⟨hkind, Identifier.ofText_text hproper⟩

/-- A machine with a library of analysers, one that lists an analyser twice, one that has effects
only, and no other. -/
def threeLibraries : Machine :=
  .start .empty (.start [(⟨"a.so"⟩, .specimen .analysers), (⟨"b.so"⟩, .specimen .repeatedAnalyser),
    (⟨"c.so"⟩, .specimen .amplifiers)] (.none "absent"))

/-- Of four libraries one contributes its analysers. The others list an analyser twice, lack the
symbol, and are not there. -/
theorem three_libraries_are_excluded_for_different_reasons :
    let cs : List Candidate :=
      [⟨⟨"b.so"⟩, "t"⟩, ⟨⟨"a.so"⟩, "t"⟩, ⟨⟨"c.so"⟩, "u"⟩, ⟨⟨"d.so"⟩, "u"⟩]
    let e := (ofLoader Machine.tableLoader .vamp cs threeLibraries).1
    (cs.map fun c => c.path.text).Nodup ∧ e.identifiers.Nodup ∧
      e.identifiers.map Identifier.text =
        ["vamp:a.so:onsetdetector", "vamp:a.so:tempo", "vamp:a.so:broken"] ∧
      e.failures =
        [⟨.vamp, ⟨"b.so"⟩, "t", .failedElsewhere,
          "library 'b.so' returns plugin 'a' at indices 0 and 1"⟩,
        ⟨.vamp, ⟨"c.so"⟩, "u", .failedToFindDescriptor,
          "library 'c.so' does not export 'vampGetPluginDescriptor'"⟩,
        ⟨.vamp, ⟨"d.so"⟩, "u", .failedToLoadLibrary, "failed to load library 'd.so': absent"⟩] := by
  intro cs e
  have hpaths : (cs.map fun c => c.path.text).Nodup := by decide
  have hlaw := a_library_contributes_all_or_nothing Machine.tableLoader .vamp cs threeLibraries
  exact ⟨hpaths, hlaw.2.2.1 hpaths, by decide +kernel, by decide +kernel⟩

end Enumeration

end AudioHost
