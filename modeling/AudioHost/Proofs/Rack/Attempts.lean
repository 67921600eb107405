import AudioHost.Proofs.Discovery.Copies
import AudioHost.Proofs.Rack.Calls
import AudioHost.Proofs.Rack.Current

/-!
Attempts to make an instance. If the library that is asked for has an entry of the label, then the
rack comes to this entry, whether it holds the library or opens it: the entry's function is called
once, unless it is missing, and nothing else can make the attempt fail.
-/

namespace AudioHost

open Journal

variable {m m' : Machine} {r r' : Rack} {racks : List Rack} {live : List Instance}
variable {p : Path} {k n : Nat} {d : Descriptor} {id : Identifier} {rate : Single}

/-! ## What an attempt comes to -/

/-- How an instance of a descriptor is made: whether the function for it is there, whether this
function makes none, the note of the call, and the native side of the instance. -/
inductive MadeBy (rate : Single) (library : Nat) :
    Descriptor → (present refuses : Bool) → Event → Engine → Prop
  | effect (d : EffectDescriptor) :
    MadeBy rate library (.effect d) d.functions.instantiate d.refuses
      (.called library d.listedAs (.instantiateEffect rate.toUInt64)) (.effect (.start d))
  | analyser (d : AnalyserDescriptor) :
    MadeBy rate library (.analyser d) d.functions.instantiate d.refuses
      (.called library d.listedAs (.instantiateAnalyser rate)) (.analyser (.start d))

theorem MadeBy.of_effect {d : EffectDescriptor} {present refuses : Bool} {call : Event}
    {engine : Engine} (h : MadeBy rate n (.effect d) present refuses call engine) :
    d.functions.instantiate = present ∧ d.refuses = refuses ∧
      call = .called n d.listedAs (.instantiateEffect rate.toUInt64) ∧
      engine = .effect (.start d) := by
  cases h
  exact ⟨rfl, rfl, rfl, rfl⟩

/-- What an attempt to make an instance of a descriptor comes to, and the call that is noted for
it. It fails if the function that makes instances is missing, or makes none. -/
inductive Attempt (id : Identifier) (rate : Single) (library : Nat) (d : Descriptor) :
    Except PluginError Instance → Journal → Prop
  | absent {refuses : Bool} {call : Event} {engine : Engine}
    (hlacks : MadeBy rate library d false refuses call engine) :
    Attempt id rate library d (.error (.instantiationFailure id.label .noFunction)) []
  | refused {call : Event} {engine : Engine}
    (hrefuses : MadeBy rate library d true true call engine) :
    Attempt id rate library d (.error (.instantiationFailure id.label .refused)) [call]
  | made {i : Instance} {call : Event} (hmakes : MadeBy rate library d true false call i.engine)
    (hidentifier : i.identifier = id) (hrate : i.sampleRate = rate)
    (hlibrary : i.library = library) :
    Attempt id rate library d (.ok i) [call]

/-- No plugin is called in what a journal adds to another. -/
def AddsNoCall (j j' : Journal) : Prop := AddsCalls (fun _ _ => False) j j'

/-- Between two machines an instance of a descriptor was asked for, in a library that was opened at
a path. No other calls were made than the one of the attempt. -/
def Attempted (p : Path) (d : Descriptor) (id : Identifier) (rate : Single)
    (answer : Except PluginError Instance) (m m' : Machine) : Prop :=
  ∃ n calls, Attempt id rate n d answer calls ∧
    (∃ q specimen, .opened n q specimen ∈ m'.journal ∧ q.same p = true) ∧
    ∃ j, AddsNoCall m.journal j ∧ AddsNoCall (j ++ calls) m'.journal

theorem Attempted.error_eq {e : PluginError} (h : Attempted p d id rate (.error e) m m') :
    ∃ fault, e = .instantiationFailure id.label fault := by
  obtain ⟨n, calls, hattempt, _⟩ := h
  cases hattempt with
  | absent hlacks => exact ⟨_, rfl⟩
  | refused hrefuses => exact ⟨_, rfl⟩

theorem Instance.madeBy (rate : Single) (library : Nat) (d : Descriptor) :
    MadeBy rate library d (canMake d) (refuses d)
      (.called library (engineOf d).listedAs (makingCall d rate)) (engineOf d) := by
  cases d with
  | effect d => exact .effect d
  | analyser d => exact .analyser d

theorem Instance.attempt_create (rack : Nat) (id : Identifier) (rate : Single) (n : Nat)
    (d : Descriptor) (m : Machine) :
    ∃ calls, Attempt id rate n d (create rack id rate n d m).1 calls ∧
      (create rack id rate n d m).2.journal = m.journal ++ calls := by
  have hmade := madeBy rate n d
  unfold create
  cases hhas : canMake d with
  | false =>
    rw [hhas] at hmade
    exact ⟨[], .absent hmade, (List.append_nil _).symm⟩
  | true =>
    cases hrefuses : refuses d with
    | true =>
      rw [hhas, hrefuses] at hmade
      exact ⟨_, .refused hmade, rfl⟩
    | false =>
      rw [hhas, hrefuses] at hmade
      exact ⟨_, .made hmade rfl rfl rfl, rfl⟩

/-! ## Finding the entry -/

/-- The only entry of a label is the one that is found. -/
theorem Machine.HasEntry.find {kind : PluginKind} {exports : Exports} {fault : Option String}
    (h : m.HasEntry kind p k d) (hload : m.load p = .ok (exports, fault)) :
    Rack.find kind p exports d.label = .ok d := by
  obtain ⟨e, fault', t, hloaded, ht, hget, honly⟩ := h
  obtain rfl : exports = e := by
    rw [hload] at hloaded
    cases hloaded
    rfl
  have hfound : t.entries.find? (fun x => x.label == d.label) = some d := by
    have hsome : (t.entries.find? fun x => x.label == d.label).isSome :=
      List.find?_isSome.mpr ⟨d, List.mem_of_getElem? hget, beq_self_eq_true d.label⟩
    obtain ⟨x, hx⟩ := Option.isSome_iff_exists.mp hsome
    have hlabel : x.label = d.label := by simpa using List.find?_some hx
    obtain ⟨j, hj⟩ := List.mem_iff_getElem?.mp (List.mem_of_find?_eq_some hx)
    -- Another entry that is found would have the same index.
    obtain rfl := honly j x hj hlabel
    rw [hget] at hj
    cases hj
    exact hx
  unfold Rack.find
  rw [ht]
  dsimp only
  rw [hfound]

namespace Custody

/-- What is held for a path, or opened there, has the entry of the library at the path. -/
theorem acquire_entry (c : Custody m (r :: racks) live nobody nobody) (hr : r.Current m n)
    (hopened : ∀ o ∈ m.linker.opened, n ≤ o.number) (hentry : m.HasEntry r.kind p k d) :
    ∃ h r₁ m₁, r.acquire p m = (.ok h, r₁, m₁) ∧ r₁.kind = r.kind ∧
      Rack.find r.kind p h.exports d.label = .ok d ∧
      ∃ q specimen, .opened h.number q specimen ∈ m₁.journal ∧ q.same p = true := by
  obtain ⟨e, fault, t, hload, ht, _⟩ := id hentry
  rcases hheld : r.holding? p with _ | h
  · obtain ⟨o, l, hopen, hexports⟩ := Linker.openAt_of_load hload
    let h : Holding := ⟨p, o.number, o.exports, 1⟩
    refine ⟨h, { r with holdings := r.holdings ++ [h] }, (m.withLinker l).share o.number, ?_, rfl,
      ?_, p, ?_⟩
    · simp only [Rack.acquire, hheld, Machine.openLibrary, hopen]
      rfl
    · change Rack.find r.kind p o.exports d.label = .ok d
      rw [hexports]
      exact hentry.find hload
    · obtain ⟨hnumber, _, _, specimen, rfl⟩ := Linker.openAt_ok hopen
      refine ⟨specimen, List.mem_append_right _ ?_, Path.same_refl p⟩
      exact List.mem_singleton.mpr (congrArg (Event.opened · p specimen) hnumber)
  · obtain ⟨hh, hsame⟩ := Rack.mem_of_holding? hheld
    obtain ⟨o, _, ho, hnumber, _⟩ :=
      c.linker.find?_of_used (uses_pos List.mem_cons_self hh live nobody)
    -- The library was opened after the last change, so it exports what lies there now.
    obtain ⟨⟨fault', hbacks⟩, htable⟩ := hr h hh (hnumber ▸ hopened o ho)
    have hexports : h.exports = e :=
      Machine.exports_eq_of_same hsame hbacks hload htable (by rw [ht, Option.isSome_some])
    obtain ⟨specimen, hevent⟩ := c.opened_at r List.mem_cons_self h hh
    refine ⟨h, r.updateHolding p fun k => { k with live := k.live + 1 }, m.share h.number, ?_, rfl,
      ?_, h.path, specimen, hevent, hsame⟩
    · simp only [Rack.acquire, hheld]
    · rw [hexports]
      exact hentry.find hload

/-- An instance of an entry is asked for by its label, and nothing else is tried. -/
theorem attempted (c : Custody m (r :: racks) live nobody nobody) (hr : r.Current m n)
    (hopened : ∀ o ∈ m.linker.opened, n ≤ o.number) (hkind : id.kind = r.kind)
    (hlocate : r.locate m.files id.library = .ok p) (hentry : m.HasEntry r.kind p k d)
    (hlabel : d.label = id.label) (rate : Single) :
    Attempted p d id rate (r.instantiate id rate m).1 m (r.instantiate id rate m).2.2 := by
  obtain ⟨h, r₁, m₁, hacquired, hkind₁, hfound, q, specimen, hevent, hsame⟩ :=
    c.acquire_entry hr hopened hentry
  have hacquire : AddsNoCall m.journal m₁.journal := Rack.addsCalls_acquire hacquired
  have hmake : r₁.make id rate p h m₁ = Instance.create r₁.number id rate h.number d m₁ := by
    rw [Rack.make, hkind₁, ← hlabel, hfound]
  obtain ⟨calls, hattempt, hjournal⟩ :=
    Instance.attempt_create r₁.number id rate h.number d m₁
  -- What happens after the calls is that the guest leaves, and that a failure is undone.
  suffices hafter :
      (r.instantiate id rate m).1 = (Instance.create r₁.number id rate h.number d m₁).1 ∧
      AddsNoCall (Instance.create r₁.number id rate h.number d m₁).2.journal
        (r.instantiate id rate m).2.2.journal by
    obtain ⟨hanswer, hadds⟩ := hafter
    rw [hjournal] at hadds
    have hcalled : Adds (fun _ => True) m₁.journal (m₁.journal ++ calls) :=
      ⟨_, rfl, fun _ _ => trivial⟩
    rw [hanswer]
    exact ⟨h.number, calls, hattempt, ⟨q, specimen, hadds.mem (hcalled.mem hevent), hsame⟩,
      m₁.journal, hacquire, hadds⟩
  unfold Rack.instantiate
  rw [if_neg (not_not.mpr hkind), hlocate]
  dsimp only
  rw [hacquired]
  dsimp only
  rw [hmake]
  rcases Instance.create r₁.number id rate h.number d m₁ with ⟨e | i, m₂⟩
  · refine ⟨rfl, ?_⟩
    have hleft : AddsNoCall m₂.journal (m₂.unshare h.number).journal :=
      Linker.addsCalls_unshare _ _
    exact hleft.trans (Rack.addsCalls_letGo r₁ p _)
  · exact ⟨rfl, Linker.addsCalls_unshare _ _⟩

end Custody

end AudioHost
