import AudioHost.Proofs.Rack.Undoing

/-!
How effects are used. Each use finds a machine, on which anything may have happened since the one
before, and adds calls to its journal. A use that is refused changes nothing.
-/

namespace AudioHost

/-! ## Turns -/

/-- What an operation on an effect comes to, and when. -/
inductive EffectEngine.Turns (e : EffectEngine) (b : Buffers) : Operation → Turn → Prop
  | wrongKind {op : Operation} (hkind : op.kind ≠ .ladspa) :
    e.Turns b op (.refuse (.effect e) b (.wrongKind op.name op.kind))
  | outOfRange {port : Nat} {buffer : Option BufferId} (hport : e.descriptor.portCount ≤ port) :
    e.Turns b (.connectPort port buffer) (.refuse (.effect e) b (.portOutOfRange port))
  | noBuffer {port : Nat} (hport : port < e.descriptor.portCount) :
    e.Turns b (.connectPort port none) (.refuse (.effect e) b (.nullBuffer port))
  | connected {port : Nat} {id : BufferId} (wired : List (Nat × BufferId))
    (hport : port < e.descriptor.portCount) :
    e.Turns b (.connectPort port (some id))
      ⟨.ok .done, .effect { e with connected := port :: e.connected, wired },
        callIf e.descriptor.functions.connectPort (.connectPort port), b⟩
  | switchedOn (hactive : e.active = false) :
    e.Turns b .activate ⟨.ok .done, .effect { e with active := true },
      callIf e.descriptor.functions.activate .activate, b⟩
  | stillOn (hactive : e.active = true) : e.Turns b .activate (.answer (.effect e) b .done)
  | switchedOff (hactive : e.active = true) :
    e.Turns b .deactivate ⟨.ok .done, .effect { e with active := false },
      callIf e.descriptor.functions.deactivate .deactivate, b⟩
  | stillOff (hactive : e.active = false) : e.Turns b .deactivate (.answer (.effect e) b .done)
  | unconnected {count port : Nat} (hport : e.unconnected? = some port) :
    e.Turns b (.run count) (.refuse (.effect e) b (.unconnected port))
  | noFunction {count : Nat} (hports : e.unconnected? = none)
    (hrun : e.descriptor.functions.run = false) :
    e.Turns b (.run count) (.refuse (.effect e) b (.missingFunction "run"))
  | ran {count : Nat} (b' : Buffers) (hports : e.unconnected? = none)
    (hrun : e.descriptor.functions.run = true) :
    e.Turns b (.run count) ⟨.ok .done, .effect e, [.run count], b'⟩

namespace EffectEngine

theorem turns_turn (e : EffectEngine) (op : Operation) (b : Buffers) :
    e.Turns b op ((Engine.effect e).turn op b) := by
  cases op with
  | connectPort port buffer =>
    simp only [Engine.turn, connect]
    split
    · next hport => exact .outOfRange hport
    · next hport =>
      cases buffer with
      | none => exact .noBuffer (Nat.lt_of_not_le hport)
      | some id => exact .connected _ (Nat.lt_of_not_le hport)
  | activate =>
    simp only [Engine.turn, activate]
    split
    · next hactive => exact .stillOn hactive
    · next hactive => exact .switchedOn (Bool.eq_false_iff.mpr hactive)
  | run count =>
    simp only [Engine.turn, run]
    split
    · next port hport => exact .unconnected hport
    · next hports =>
      split
      · next hrun => exact .ran _ hports hrun
      · next hrun => exact .noFunction hports (Bool.eq_false_iff.mpr hrun)
  | deactivate =>
    simp only [Engine.turn, deactivate]
    split
    · next hactive => exact .switchedOff hactive
    · next hactive => exact .stillOff (Bool.eq_false_iff.mpr hactive)
  | _ => exact .wrongKind nofun

variable {e : EffectEngine} {op : Operation} {b : Buffers} {t : Turn}

theorem Turns.engine_eq (h : e.Turns b op t) :
    ∃ e', t.engine = .effect e' ∧ e'.descriptor = e.descriptor := by
  cases h <;> exact ⟨_, rfl, rfl⟩

/-- An operation that is refused makes no call and changes nothing. -/
theorem Turns.refused {fault : OperationFault} (h : e.Turns b op t)
    (hreply : t.reply = .error fault) : t = .refuse (.effect e) b fault := by
  cases h <;> cases hreply <;> rfl

end EffectEngine

/-! ## Uses -/

theorem Machine.journal_noteCalls (m : Machine) (n : Nat) (listedAs : Option String)
    (calls : List NativeCall) :
    (m.noteCalls n listedAs calls).journal = m.journal ++ calls.map (.called n listedAs) := by
  rw [noteCalls_eq]
  rfl

/-- What a machine has in its journal beyond what another had. -/
def Machine.added (m m' : Machine) : Journal := m'.journal.drop m.journal.length

theorem Machine.added_eq {m m' : Machine} {new : Journal} (h : m'.journal = m.journal ++ new) :
    m.added m' = new := by
  rw [added, h, List.drop_left]

/-- A machine with the library of the amplifiers open. -/
def Machine.shop : Machine :=
  ((start .empty (.start [] (.specimen .amplifiers))).openLibrary ⟨"a.so"⟩).2

/-- One use of an instance: what is asked of it, and the machine that it finds. -/
structure Use where
  op : Operation
  machine : Machine

namespace Instance

/-- The instance after some uses, in order. -/
def after (i : Instance) (uses : List Use) : Instance :=
  uses.foldl (fun i u => (i.perform u.op u.machine).2.1) i

/-- What some uses of an instance add to the journals of their machines. -/
def noted (i : Instance) : List Use → Journal
  | [] => []
  | u :: uses =>
    let (next, m) := (i.perform u.op u.machine).2
    u.machine.added m ++ next.noted uses

variable {i : Instance} {e : EffectEngine} {m : Machine} {op : Operation}

/-- What it comes to that an effect is used. -/
theorem perform_effect (h : i.engine = .effect e) (op : Operation) (m : Machine) :
    ∃ t, e.Turns m.buffers op t ∧
      (i.perform op m).1 = t.reply.mapError (.unsupportedOperation i.identifier.label) ∧
      (i.perform op m).2 = ({ i with engine := t.engine },
        { m.noteCalls i.library t.engine.listedAs t.calls with buffers := t.buffers }) ∧
      m.added (i.perform op m).2.2 = t.calls.map (.called i.library e.descriptor.listedAs) := by
  let t := (Engine.effect e).turn op m.buffers
  have hturns : e.Turns m.buffers op t := e.turns_turn op m.buffers
  have hperform : i.perform op m =
      (t.reply.mapError (.unsupportedOperation i.identifier.label), { i with engine := t.engine },
        { m.noteCalls i.library t.engine.listedAs t.calls with buffers := t.buffers }) := by
    rw [perform, h]
  obtain ⟨e', hengine, hdescriptor⟩ := hturns.engine_eq
  have hlisted : t.engine.listedAs = e.descriptor.listedAs := by
    rw [hengine, Engine.listedAs, hdescriptor]
  refine ⟨t, hturns, by rw [hperform], by rw [hperform], ?_⟩
  rw [hperform, hlisted]
  exact Machine.added_eq (Machine.journal_noteCalls ..)

/-- A use of an effect that is refused makes no call and changes neither the effect nor the
machine. -/
theorem perform_refused {error : PluginError} (h : i.engine = .effect e)
    (herror : (i.perform op m).1 = .error error) : (i.perform op m).2 = (i, m) := by
  obtain ⟨t, hturns, hanswer, hafter, _⟩ := perform_effect h op m
  rw [hanswer] at herror
  obtain ⟨fault, hreply⟩ : ∃ fault, t.reply = .error fault := by
    cases hreply : t.reply with
    | error fault => exact ⟨fault, rfl⟩
    | ok reply =>
      rw [hreply] at herror
      cases herror
  -- The refusing turn has the engine and the buffers that it was given.
  rw [hafter, hturns.refused hreply]
  show ({ i with engine := .effect e }, m) = (i, m)
  rw [← h]

theorem after_cons (i : Instance) (u : Use) (uses : List Use) :
    i.after (u :: uses) = (i.perform u.op u.machine).2.1.after uses := rfl

/-- The first of some uses of an effect is a turn of its engine, and the others go on from that. -/
theorem use_first (h : i.engine = .effect e) (u : Use) (uses : List Use) :
    ∃ t e', e.Turns u.machine.buffers u.op t ∧ t.engine = .effect e' ∧
      e'.descriptor = e.descriptor ∧
      (i.perform u.op u.machine).1 = t.reply.mapError (.unsupportedOperation i.identifier.label) ∧
      (i.perform u.op u.machine).2.1 = { i with engine := .effect e' } ∧
      i.noted (u :: uses) = t.calls.map (.called i.library e.descriptor.listedAs) ++
        ({ i with engine := .effect e' } : Instance).noted uses := by
  obtain ⟨t, hturns, hanswer, hafter, hadded⟩ := perform_effect h u.op u.machine
  obtain ⟨e', hengine, hdescriptor⟩ := hturns.engine_eq
  have hnext : (i.perform u.op u.machine).2.1 = { i with engine := .effect e' } := by
    rw [hafter, hengine]
  refine ⟨t, e', hturns, hengine, hdescriptor, hanswer, hnext, ?_⟩
  rw [← hnext, ← hadded]
  rfl

theorem after_effect (h : i.engine = .effect e) (uses : List Use) :
    ∃ e', i.after uses = { i with engine := .effect e' } ∧ e'.descriptor = e.descriptor := by
  induction uses generalizing i e with
  | nil => exact ⟨e, by rw [← h]; rfl, rfl⟩
  | cons u uses ih =>
    obtain ⟨t, e₁, _, _, hdescriptor, _, hnext, _⟩ := use_first h u uses
    obtain ⟨e', hrest, hdescriptor'⟩ := ih (i := { i with engine := .effect e₁ }) rfl
    refine ⟨e', ?_, hdescriptor'.trans hdescriptor⟩
    rw [after_cons, hnext, hrest]

theorem create_effect {d : EffectDescriptor} {rack library : Nat} {id : Identifier} {rate : Single}
    {m' : Machine} (h : create rack id rate library (.effect d) m = (.ok i, m')) :
    i.engine = .effect (.start d) ∧ i.library = library ∧ i.identifier = id := by
  unfold create at h
  split at h
  · cases h
  · dsimp only at h
    split at h
    · cases h
    · cases h
      exact ⟨rfl, rfl, rfl⟩

/-! ## An amplifier -/

/-- The first amplifier of the library. -/
def amplifier : Instance :=
  ⟨0, 0, ⟨.ladspa, "a.so", "amp_mono"⟩, .one, 0, .effect (.start Specimen.mono)⟩

theorem create_amplifier :
    create 0 ⟨.ladspa, "a.so", "amp_mono"⟩ .one 0 (.effect Specimen.mono) .shop =
      (.ok amplifier, (create 0 ⟨.ladspa, "a.so", "amp_mono"⟩ .one 0 (.effect Specimen.mono)
        .shop).2) := by
  rfl

end Instance

end AudioHost
