import AudioHost.Native.Reading
import AudioHost.Proofs.Plugin.Identifier

/-!
What can be read of a table. Its entries go up to the first index without a descriptor, or up to
the limit; a record can be copied from an entry that has a proper label and tells of its ports.
-/

namespace AudioHost

/-! ## Entries -/

namespace Table

variable {δ ε : Type}

/-- Some descriptors are the ones that a table gives before its end, as far as it is read. -/
structure Lists (t : Table δ) (ds : List δ) : Prop where
  bounded : ds.length ≤ limit
  given : ∀ i < ds.length, t.at? i = ds[i]?
  ends : ds.length < limit → t.at? ds.length = none

theorem length_entriesFrom_le (t : Table δ) (n index : Nat) :
    (t.entriesFrom n index).length ≤ n := by
  induction n generalizing index with
  | zero => exact Nat.le_refl 0
  | succ n ih =>
    unfold entriesFrom
    split
    · exact Nat.succ_le_succ (ih (index + 1))
    · exact Nat.zero_le _

theorem at?_of_lt_entriesFrom (t : Table δ) (n index i : Nat)
    (hi : i < (t.entriesFrom n index).length) :
    t.at? (index + i) = (t.entriesFrom n index)[i]? := by
  induction n generalizing index i with
  | zero => cases hi
  | succ n ih =>
    unfold entriesFrom at hi ⊢
    rcases hat : t.at? index with _ | d
    · rw [hat] at hi
      cases hi
    · rw [hat] at hi
      cases i with
      | zero => exact hat
      | succ i =>
        have hrest := ih (index + 1) i (Nat.lt_of_succ_lt_succ hi)
        rw [Nat.add_right_comm, Nat.add_assoc] at hrest
        exact hrest

theorem at?_end_entriesFrom (t : Table δ) (n index : Nat)
    (hend : (t.entriesFrom n index).length < n) :
    t.at? (index + (t.entriesFrom n index).length) = none := by
  induction n generalizing index with
  | zero => cases hend
  | succ n ih =>
    unfold entriesFrom at hend ⊢
    rcases hat : t.at? index with _ | d
    · exact hat
    · rw [hat] at hend
      have hrest := ih (index + 1) (Nat.lt_of_succ_lt_succ hend)
      rw [Nat.add_right_comm, Nat.add_assoc] at hrest
      exact hrest

theorem lists_entries (t : Table δ) : t.Lists t.entries where
  bounded := t.length_entriesFrom_le limit 0
  given i hi := by
    have hgiven := t.at?_of_lt_entriesFrom limit 0 i hi
    rw [Nat.zero_add] at hgiven
    exact hgiven
  ends hend := by
    have hnone := t.at?_end_entriesFrom limit 0 hend
    rw [Nat.zero_add] at hnone
    exact hnone

/-- A table has only one list of such descriptors. -/
theorem Lists.eq_entries {t : Table δ} {ds : List δ} (h : t.Lists ds) : ds = t.entries := by
  have hall := t.lists_entries
  have hlength : ds.length = t.entries.length := by
    rcases Nat.lt_trichotomy ds.length t.entries.length with hlt | heq | hgt
    · have hsome := hall.given ds.length hlt
      rw [h.ends (Nat.lt_of_lt_of_le hlt hall.bounded), List.getElem?_eq_getElem hlt] at hsome
      cases hsome
    · exact heq
    · have hsome := h.given t.entries.length hgt
      rw [hall.ends (Nat.lt_of_lt_of_le hgt h.bounded), List.getElem?_eq_getElem hgt] at hsome
      cases hsome
  refine List.ext_getElem? fun i => ?_
  rcases Nat.lt_or_ge i ds.length with hi | hi
  · rw [← h.given i hi, hall.given i (hlength ▸ hi)]
  · rw [List.getElem?_eq_none hi, List.getElem?_eq_none (hlength ▸ hi)]

theorem mem_items_of_at? {t : Table δ} {i : Nat} {d : δ} (h : t.at? i = some d) :
    d ∈ t.items := by
  unfold at? at h
  split at h <;> exact List.mem_of_getElem? h

theorem Lists.mem_items {t : Table δ} {ds : List δ} (h : t.Lists ds) {d : δ} (hd : d ∈ ds) :
    d ∈ t.items := by
  obtain ⟨i, hi, rfl⟩ := List.getElem_of_mem hd
  refine mem_items_of_at? (i := i) ?_
  rw [h.given i hi, List.getElem?_eq_getElem hi]

end Table

/-! ## Records -/

namespace Descriptor

open Identifier

/-- All that there is to tell about the ports of a plugin is told. -/
def TellsPorts : Descriptor → Prop
  | .effect d => d.portCount = 0 ∨ d.kinds.isSome ∧ d.names.isSome ∧ d.ranges.isSome
  | .analyser _ => True

instance : (d : Descriptor) → Decidable d.TellsPorts
  | .effect d => inferInstanceAs
    (Decidable (d.portCount = 0 ∨ d.kinds.isSome ∧ d.names.isSome ∧ d.ranges.isSome))
  | .analyser _ => inferInstanceAs (Decidable True)

/-- Nothing hinders that a record is copied from a descriptor. -/
def Sound (d : Descriptor) : Prop := ProperLabel d.label ∧ d.TellsPorts

variable {d : Descriptor} {p : Path} {r : Record} {e : PluginError}

theorem nativeIdentifier_cases (kind : PluginKind) (p : Path) (label : String) :
    (ProperLabel label ∧ nativeIdentifier kind p label = .ok ⟨kind, p.text, label⟩) ∨
      (¬ ProperLabel label ∧ ∃ fault, nativeIdentifier kind p label =
        .error (.malformedDescriptor p (.badIdentifier fault))) := by
  unfold nativeIdentifier
  rcases hchecked : checked kind p.text label with fault | id
  · refine Or.inr ⟨fun hproper => ?_, fault, rfl⟩
    rw [checked_of_proper hproper] at hchecked
    cases hchecked
  · obtain ⟨hproper, rfl⟩ := checked_eq_ok hchecked
    exact Or.inl ⟨hproper, rfl⟩

theorem isSome_ports? (d : EffectDescriptor) :
    d.ports?.isSome ↔ (Descriptor.effect d).TellsPorts := by
  show _ ↔ d.portCount = 0 ∨ d.kinds.isSome ∧ d.names.isSome ∧ d.ranges.isSome
  unfold EffectDescriptor.ports?
  by_cases hcount : d.portCount = 0
  · simp [hcount]
  · rcases d.kinds with _ | kinds <;> rcases d.names with _ | names <;>
      rcases d.ranges with _ | ranges <;> simp [hcount]

/-- A record is copied from a descriptor, under its label, or the descriptor is found malformed. -/
theorem record_cases (d : Descriptor) (p : Path) :
    (d.Sound ∧ ∃ r, d.record p = .ok r ∧ r.identifier = ⟨d.kind, p.text, d.label⟩) ∨
      (¬ d.Sound ∧ ∃ fault, d.record p = .error (.malformedDescriptor p fault)) := by
  cases d with
  | effect d =>
    have htold := isSome_ports? d
    rcases hports : d.ports? with _ | ports
    · rw [hports] at htold
      refine Or.inr ⟨fun hsound => ?_, .missingPortArrays d.portCount, ?_⟩
      · cases htold.mpr hsound.2
      · simp only [record, EffectDescriptor.record, hports]
    · rw [hports] at htold
      have htells := htold.mp rfl
      simp only [record, EffectDescriptor.record, hports]
      obtain ⟨hproper, hid⟩ | ⟨hnot, fault, hid⟩ := nativeIdentifier_cases .ladspa p d.label.read
      · rw [hid]
        exact Or.inl ⟨⟨hproper, htells⟩, _, rfl, rfl⟩
      · rw [hid]
        exact Or.inr ⟨fun hsound => hnot hsound.1, _, rfl⟩
  | analyser d =>
    simp only [record, AnalyserDescriptor.record]
    obtain ⟨hproper, hid⟩ | ⟨hnot, fault, hid⟩ := nativeIdentifier_cases .vamp p d.identifier.read
    · rw [hid]
      exact Or.inl ⟨⟨hproper, trivial⟩, _, rfl, rfl⟩
    · rw [hid]
      exact Or.inr ⟨fun hsound => hnot hsound.1, _, rfl⟩

theorem sound_of_record (h : d.record p = .ok r) :
    d.Sound ∧ r.identifier = ⟨d.kind, p.text, d.label⟩ := by
  obtain ⟨hsound, r', hr, hid⟩ | ⟨_, fault, herror⟩ := d.record_cases p
  · rw [h] at hr
    cases hr
    exact ⟨hsound, hid⟩
  · rw [h] at herror
    cases herror

theorem malformed_of_record (h : d.record p = .error e) :
    ¬ d.Sound ∧ ∃ fault, e = .malformedDescriptor p fault := by
  obtain ⟨_, r', hr, _⟩ | ⟨hnot, fault, herror⟩ := d.record_cases p
  · rw [h] at hr
    cases hr
  · rw [h] at herror
    cases herror
    exact ⟨hnot, fault, rfl⟩

end Descriptor

/-! ## Kinds -/

theorem Table.kind_of_mem_map {δ : Type} {t : Table δ} {f : δ → Descriptor} {kind : PluginKind}
    (hf : ∀ x, (f x).kind = kind) {d : Descriptor} (hd : d ∈ (t.map f).items) : d.kind = kind := by
  obtain ⟨x, _, rfl⟩ := List.mem_map.mp hd
  exact hf x

theorem Exports.kind_of_mem {e : Exports} {kind : PluginKind} {t : Table Descriptor}
    (ht : e.table? kind = some t) {d : Descriptor} (hd : d ∈ t.items) : d.kind = kind := by
  cases kind with
  | ladspa =>
    obtain ⟨effects, _, rfl⟩ := Option.map_eq_some_iff.mp ht
    exact Table.kind_of_mem_map (f := .effect) (fun _ => rfl) hd
  | vamp =>
    obtain ⟨analysers, _, rfl⟩ := Option.map_eq_some_iff.mp ht
    exact Table.kind_of_mem_map (f := .analyser) (fun _ => rfl) hd

end AudioHost
