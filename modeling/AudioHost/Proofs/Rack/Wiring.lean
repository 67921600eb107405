import AudioHost.Proofs.Rack.Uses

/-!
Which ports an effect needs. A record tells of all ports of its descriptor, in order, and an
instance runs just if every one of them was given a buffer.
-/

namespace AudioHost

/-! ## Recorded ports -/

namespace EffectDescriptor

variable {d : EffectDescriptor} {ports : List Port} {p : Path} {record : Record}

theorem index_ports? (h : d.ports? = some ports) :
    ports.map Port.index = List.range d.portCount := by
  unfold ports? at h
  split at h
  · next hnone =>
    cases h
    rw [hnone]
    rfl
  · split at h
    · next kinds names ranges _ _ _ =>
      cases h
      have hindex : Port.index ∘ portAt kinds names ranges = id := rfl
      rw [List.map_map, hindex, List.map_id]
    · cases h

/-- The ports of a record are those of the descriptor, each once and in order. -/
theorem index_record (h : d.record p = .ok record) :
    record.ports.map Port.index = List.range d.portCount := by
  unfold EffectDescriptor.record at h
  split at h
  · cases h
  · next ports hports =>
    rw [← index_ports? hports]
    rcases hid : nativeIdentifier .ladspa p d.label.read with error | id
    · rw [hid] at h
      cases h
    · rw [hid] at h
      cases h
      rfl

end EffectDescriptor

/-! ## Connected ports -/

namespace EffectEngine

variable {e e' : EffectEngine} {op : Operation} {b : Buffers} {t : Turn} {port : Nat}

theorem Turns.mem_connected_iff (h : e.Turns b op t) (he : t.engine = .effect e') :
    port ∈ e'.connected ↔ port ∈ e.connected ∨
      (∃ buffer, op = .connectPort port buffer) ∧ ∃ reply, t.reply = .ok reply := by
  cases h with
  | connected wired hport =>
    cases he
    simp [eq_comm, or_comm]
  | _ =>
    cases he
    simp [Turn.refuse, Turn.answer]

theorem unconnected?_eq_some_iff : e.unconnected? = some port ↔
    port < e.descriptor.portCount ∧ port ∉ e.connected ∧ ∀ lower < port, lower ∈ e.connected := by
  rw [unconnected?, List.find?_range_eq_some]
  simp [and_left_comm]

theorem unconnected?_eq_none_iff : e.unconnected? = none ↔
    ∀ port < e.descriptor.portCount, port ∈ e.connected := by
  simp [unconnected?]

end EffectEngine

namespace Instance

variable {i : Instance} {e : EffectEngine} {u : Use} {uses : List Use} {port : Nat}

/-- One of some uses connects a port: it asks for that and is not refused. -/
def Connects (i : Instance) (uses : List Use) (port : Nat) : Prop :=
  ∃ before u later, uses = before ++ u :: later ∧ (∃ buffer, u.op = .connectPort port buffer) ∧
    ∃ reply, ((i.after before).perform u.op u.machine).1 = .ok reply

theorem connects_cons : i.Connects (u :: uses) port ↔
    ((∃ buffer, u.op = .connectPort port buffer) ∧
      ∃ reply, (i.perform u.op u.machine).1 = .ok reply) ∨
    (i.perform u.op u.machine).2.1.Connects uses port := by
  constructor
  · rintro ⟨before, v, later, hsplit, hop, hanswer⟩
    cases before with
    | nil =>
      cases hsplit
      exact Or.inl ⟨hop, hanswer⟩
    | cons first before =>
      cases hsplit
      exact Or.inr ⟨before, v, later, rfl, hop, hanswer⟩
  · rintro (⟨hop, hanswer⟩ | ⟨before, v, later, rfl, hop, hanswer⟩)
    · exact ⟨[], u, uses, rfl, hop, hanswer⟩
    · exact ⟨u :: before, v, later, rfl, hop, hanswer⟩

/-- The ports of an effect that have buffers were connected before some uses or by them. -/
theorem mem_connected_after (h : i.engine = .effect e) (uses : List Use) :
    ∃ e', i.after uses = { i with engine := .effect e' } ∧ e'.descriptor = e.descriptor ∧
      ∀ port, port ∈ e'.connected ↔ port ∈ e.connected ∨ i.Connects uses port := by
  induction uses generalizing i e with
  | nil =>
    refine ⟨e, by rw [← h]; rfl, rfl, fun port => ⟨Or.inl, fun hport => ?_⟩⟩
    obtain hport | ⟨before, u, later, hsplit, _⟩ := hport
    · exact hport
    · simp at hsplit
  | cons u uses ih =>
    obtain ⟨t, e₁, hturns, hengine, hdescriptor, hanswer, hnext, _⟩ := use_first h u uses
    obtain ⟨e', hrest, hdescriptor', hconnected⟩ := ih (i := { i with engine := .effect e₁ }) rfl
    refine ⟨e', ?_, hdescriptor'.trans hdescriptor, fun port => ?_⟩
    · rw [after_cons, hnext, hrest]
    · -- The first use connects the port, or one of the others does.
      have hreply : (∃ reply, (i.perform u.op u.machine).1 = .ok reply) ↔
          ∃ reply, t.reply = .ok reply := by
        rw [hanswer]
        cases t.reply <;> simp [Except.mapError]
      rw [hconnected, hturns.mem_connected_iff hengine, connects_cons, hreply, hnext, or_assoc]

/-- A run of an effect with a function for it reaches the plugin, unless a port has no buffer. -/
theorem perform_run (h : i.engine = .effect e) (hrun : e.descriptor.functions.run = true) (n : Nat)
    (m : Machine) :
    let r := i.perform (.run n) m
    (e.unconnected? = none ∧ r.1 = .ok .done ∧
      m.added r.2.2 = [.called i.library e.descriptor.listedAs (.run n)]) ∨
    ∃ port, e.unconnected? = some port ∧ m.added r.2.2 = [] ∧
      r.1 = .error (.unsupportedOperation i.identifier.label (.unconnected port)) := by
  intro r
  obtain ⟨t, hturns, hanswer, _, hadded⟩ := perform_effect h (.run n) m
  cases hturns with
  | wrongKind hkind => exact absurd rfl hkind
  | unconnected hport => exact Or.inr ⟨_, hport, hadded, hanswer⟩
  | noFunction hports hnone =>
    rw [hrun] at hnone
    cases hnone
  | ran b' hports hrun => exact Or.inl ⟨hports, hanswer, hadded⟩

theorem perform_connect (h : i.engine = .effect e) (port : Nat) (buffer : BufferId) (m : Machine) :
    (∃ reply, (i.perform (.connectPort port (some buffer)) m).1 = .ok reply) ↔
      port < e.descriptor.portCount := by
  obtain ⟨t, hturns, hanswer, _⟩ := perform_effect h (.connectPort port (some buffer)) m
  rw [hanswer]
  cases hturns with
  | wrongKind hkind => exact absurd rfl hkind
  | outOfRange hport => simp [Turn.refuse, Except.mapError, hport]
  | connected wired hport => simp [Except.mapError, hport]

/-- A run after some uses reaches the plugin, or a port was not connected by them. -/
theorem run_after {d : EffectDescriptor} (h : i.engine = .effect (.start d))
    (hrun : d.functions.run = true) (uses : List Use) (n : Nat) (m : Machine) :
    let r := (i.after uses).perform (.run n) m
    ((∀ port < d.portCount, i.Connects uses port) ∧ r.1 = .ok .done ∧
      m.added r.2.2 = [.called i.library d.listedAs (.run n)]) ∨
    ∃ port < d.portCount, ¬ i.Connects uses port ∧ (∀ lower < port, i.Connects uses lower) ∧
      m.added r.2.2 = [] ∧
      r.1 = .error (.unsupportedOperation i.identifier.label (.unconnected port)) := by
  obtain ⟨e, hafter, rfl, hconnected⟩ := mem_connected_after h uses
  replace hconnected : ∀ port, port ∈ e.connected ↔ i.Connects uses port :=
    fun port => (hconnected port).trans (or_iff_right List.not_mem_nil)
  rw [hafter]
  obtain ⟨hnone, hdone, hadded⟩ | ⟨port, hport, hadded, herror⟩ :=
    perform_run (i := { i with engine := .effect e }) rfl hrun n m
  · rw [EffectEngine.unconnected?_eq_none_iff] at hnone
    exact Or.inl ⟨fun port hport => (hconnected port).mp (hnone port hport), hdone, hadded⟩
  · obtain ⟨hlt, hnot, hlower⟩ := EffectEngine.unconnected?_eq_some_iff.mp hport
    rw [hconnected] at hnot
    exact Or.inr ⟨port, hlt, hnot, fun lower hless => (hconnected lower).mp (hlower lower hless),
      hadded, herror⟩

/-! ## The law -/

/-- Let a record be copied from the descriptor of an effect, and use an instance in any way. The
record tells of all ports of the descriptor, each once and in order. If there is a function to run,
a run reaches the plugin just if every recorded port was connected by a use that was not refused;
else it is refused for the lowest port that was not. And a buffer is taken for just the recorded
ports. -/
theorem an_effect_runs_just_if_its_recorded_ports_are_connected (d : EffectDescriptor) (p : Path)
    (record : Record) (hrecord : d.record p = .ok record) :
    let ports := record.ports.map Port.index
    ports = List.range d.portCount ∧
    ∀ rack id rate library m₀ m₁ i, create rack id rate library (.effect d) m₀ = (.ok i, m₁) →
      ∀ (uses : List Use) (m : Machine),
        (d.functions.run = true → ∀ n, let r := (i.after uses).perform (.run n) m
          (.called library d.listedAs (.run n) ∈ m.added r.2.2 ↔
            ∀ port ∈ ports, i.Connects uses port) ∧
          ((∀ port ∈ ports, i.Connects uses port) → r.1 = .ok .done) ∧
          ((∃ port ∈ ports, ¬ i.Connects uses port) → m.added r.2.2 = [] ∧
            ∃ port ∈ ports, ¬ i.Connects uses port ∧
              (∀ lower ∈ ports, lower < port → i.Connects uses lower) ∧
              r.1 = .error (.unsupportedOperation id.label (.unconnected port)))) ∧
        ∀ port buffer, port ∈ ports ↔
          ∃ reply, ((i.after uses).perform (.connectPort port (some buffer)) m).1 = .ok reply := by
  intro ports
  have hports : ports = List.range d.portCount := EffectDescriptor.index_record hrecord
  refine ⟨hports, fun rack id rate library m₀ m₁ i hmade uses m => ?_⟩
  obtain ⟨hengine, rfl, rfl⟩ := create_effect hmade
  have hmem : ∀ port, port ∈ ports ↔ port < d.portCount := by
    intro port
    rw [hports, List.mem_range]
  refine ⟨fun hrun n => ?_, fun port buffer => ?_⟩
  · obtain ⟨hall, hdone, hadded⟩ | ⟨port, hport, hnot, hlower, hadded, herror⟩ :=
      run_after hengine hrun uses n m
    · refine ⟨?_, fun _ => hdone, fun ⟨port, hport, hnot⟩ => ?_⟩
      · rw [hadded]
        exact ⟨fun _ port hport => hall port ((hmem port).mp hport),
          fun _ => List.mem_singleton_self _⟩
      · exact absurd (hall port ((hmem port).mp hport)) hnot
    · rw [← hmem] at hport
      refine ⟨?_, fun hall => absurd (hall port hport) hnot, fun _ => ⟨hadded, port, hport, hnot,
        fun lower _ => hlower lower, herror⟩⟩
      rw [hadded]
      exact ⟨fun hcall => absurd hcall List.not_mem_nil, fun hall => absurd (hall port hport) hnot⟩
  · obtain ⟨e, hafter, hdescriptor⟩ := after_effect hengine uses
    replace hdescriptor : e.descriptor = d := hdescriptor
    rw [hmem, ← hdescriptor, perform_connect (by rw [hafter])]

/-- The first amplifier has five ports. It is run with three of them connected, and again with all
of them. -/
theorem an_amplifier_runs_with_its_last_ports_connected :
    let offer (port : Nat) : Use := ⟨.connectPort port (some ⟨"x", port⟩), .shop⟩
    let few : List Use :=
      [offer 0, offer 2, offer 1, offer 9, ⟨.connectPort 3 none, .shop⟩, offer 2]
    let all : List Use := few ++ [offer 4, offer 3]
    (∃ record, Specimen.mono.record ⟨"a.so"⟩ = .ok record ∧
      record.ports.map Port.index = List.range 5) ∧
    ((amplifier.after few).perform (.run 2) .shop).1 =
      .error (.unsupportedOperation "amp_mono" (.unconnected 3)) ∧
    ¬ amplifier.Connects few 3 ∧
    (∀ port < 5, amplifier.Connects all port) ∧
    ((amplifier.after all).perform (.run 2) .shop).1 = .ok .done := by
  intro offer few all
  obtain ⟨record, hrecord⟩ : ∃ record, Specimen.mono.record ⟨"a.so"⟩ = .ok record := ⟨_, rfl⟩
  obtain ⟨hports, hlive⟩ := an_effect_runs_just_if_its_recorded_ports_are_connected Specimen.mono
    ⟨"a.so"⟩ record hrecord
  obtain ⟨hfew, _⟩ := hlive 0 _ .one 0 .shop _ amplifier create_amplifier few .shop
  obtain ⟨hall, _⟩ := hlive 0 _ .one 0 .shop _ amplifier create_amplifier all .shop
  have hrefused : ((amplifier.after few).perform (.run 2) .shop).1 =
      .error (.unsupportedOperation "amp_mono" (.unconnected 3)) := by rfl
  have hdone : ((amplifier.after all).perform (.run 2) .shop).1 = .ok .done := by rfl
  obtain ⟨_, hfewDone, hfewError⟩ := hfew rfl 2
  obtain ⟨_, _, hallError⟩ := hall rfl 2
  refine ⟨⟨record, hrecord, hports⟩, hrefused, ?_, fun port hport => ?_, hdone⟩
  · have hmissing : ∃ port ∈ record.ports.map Port.index, ¬ amplifier.Connects few port := by
      by_contra hnone
      push Not at hnone
      cases (hfewDone hnone).symm.trans hrefused
    obtain ⟨_, port, _, hnot, _, herror⟩ := hfewError hmissing
    cases herror.symm.trans hrefused
    exact hnot
  · by_contra hnot
    have hmem : port ∈ record.ports.map Port.index := by
      rw [hports]
      exact List.mem_range.mpr hport
    obtain ⟨_, _, _, _, _, herror⟩ := hallError ⟨port, hmem, hnot⟩
    cases herror.symm.trans hdone

end Instance

end AudioHost
