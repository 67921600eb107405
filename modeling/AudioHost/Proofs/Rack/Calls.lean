import AudioHost.Proofs.Rack.Orders

/-!
Which libraries are called for which instances. An order calls the library of the instance that it
concerns, and no other, or it makes an instance by a call into the library that this then uses. No
instance ever changes its library.
-/

namespace AudioHost

open Journal

/-- An event that is a call is one of some calls into some libraries. -/
def Event.CallsOnly (calls : Nat → NativeCall → Prop) : Event → Prop
  | .called n _ call => calls n call
  | _ => True

/-- A journal goes on from another. Only some calls are made in what is added. -/
abbrev Journal.AddsCalls (calls : Nat → NativeCall → Prop) (j j' : Journal) : Prop :=
  Adds (Event.CallsOnly calls) j j'

variable {calls calls' : Nat → NativeCall → Prop} {m m' : Machine} {r r' : Rack} {p : Path}
variable {h : Holding} {i : Instance} {n : Nat} {id : Identifier} {rate : Single}

theorem Journal.Adds.weaken {j j' : Journal} (h : AddsCalls calls j j')
    (hcalls : ∀ n call, calls n call → calls' n call) : AddsCalls calls' j j' := by
  refine h.imp fun e he => ?_
  cases e with
  | called n listedAs call => exact hcalls n call he
  | _ => trivial

/-! ## Opening and ending libraries -/

theorem Linker.addsCalls_openAt (l : Linker) (t : FileTree) (p : Path) :
    AddsCalls calls l.journal (l.openAt t p).2.journal := by
  unfold openAt
  dsimp only
  split
  · exact adds_snoc trivial
  · exact adds_snoc trivial

theorem Linker.addsCalls_unshare (l : Linker) (n : Nat) :
    AddsCalls calls l.journal (l.unshare n).journal := by
  refine (l.adds_unshare n).imp fun e he => ?_
  obtain ⟨path, rfl⟩ := he
  trivial

theorem Linker.addsCalls_close (l : Linker) (n : Nat) :
    AddsCalls calls l.journal (l.close n).2.journal := by
  unfold close
  split
  · exact adds_refl _ _
  · next o _ =>
    split
    · cases o.closeFault <;> exact adds_snoc trivial
    · have hdeferred : AddsCalls calls l.journal (l.note (.deferred n o.path)).journal :=
        adds_snoc trivial
      exact hdeferred.trans (addsCalls_unshare _ n)

/-- What each step of a walk through holdings adds, the whole walk adds. -/
theorem Machine.adds_foldl {ok : Event → Prop} {f : Machine → Holding → Machine}
    (hf : ∀ m h, Adds ok m.journal (f m h).journal) (hs : List Holding) (m : Machine) :
    Adds ok m.journal (hs.foldl f m).journal := by
  induction hs generalizing m with
  | nil => exact adds_refl _ _
  | cons h hs ih => exact (hf m h).trans (ih (f m h))

theorem Machine.addsCalls_noteCalls (m : Machine) (listedAs : Option String)
    {made : List NativeCall} (hmade : ∀ call ∈ made, calls n call) :
    AddsCalls calls m.journal (m.noteCalls n listedAs made).journal := by
  induction made generalizing m with
  | nil => exact adds_refl _ _
  | cons call made ih =>
    have hfirst : AddsCalls calls m.journal (m.note (.called n listedAs call)).journal :=
      adds_snoc (hmade call List.mem_cons_self)
    exact hfirst.trans (ih _ fun c hc => hmade c (List.mem_cons_of_mem call hc))

namespace Rack

theorem addsCalls_letGo (r : Rack) (p : Path) (m : Machine) :
    AddsCalls calls m.journal (r.letGo p m).2.journal := by
  unfold letGo
  split
  · exact adds_refl _ _
  · split
    · exact adds_refl _ _
    · exact m.linker.addsCalls_close _

theorem addsCalls_unloadUnused (r : Rack) (m : Machine) :
    AddsCalls calls m.journal (r.unloadUnused m).2.2.journal :=
  Machine.adds_foldl (fun m h => m.linker.addsCalls_close h.number) _ m

theorem addsCalls_discard (r : Rack) (m : Machine) :
    AddsCalls calls m.journal (r.discard m).journal := by
  have hclosed : AddsCalls calls m.journal (r.unloadUnused m).2.2.journal :=
    addsCalls_unloadUnused r m
  exact hclosed.trans (Machine.adds_foldl (fun m h => m.linker.addsCalls_unshare h.number) _ _)

theorem addsCalls_released (r : Rack) (n : Nat) (m : Machine) :
    AddsCalls calls m.journal (r.released n m).2.journal := by
  unfold released
  split
  · exact adds_refl _ _
  · exact addsCalls_letGo _ _ m

/-! ## Making instances -/

theorem addsCalls_acquire {acquired : Except PluginError Holding}
    (ho : r.acquire p m = (acquired, r', m')) : AddsCalls calls m.journal m'.journal := by
  have hopen : AddsCalls calls m.journal (m.linker.openAt m.files p).2.journal :=
    m.linker.addsCalls_openAt m.files p
  cases acquired with
  | error e =>
    obtain ⟨_, l, hl, rfl⟩ := acquire_error ho
    rw [hl] at hopen
    exact hopen
  | ok h =>
    obtain ⟨_, _, rfl⟩ | ⟨_, o, l, hl, _, _, rfl⟩ := acquire_ok ho
    · exact adds_refl _ _
    · rw [hl] at hopen
      exact hopen

/-- An instantiation that fails makes no calls but one that should make an instance. -/
theorem addsCalls_instantiate_error {e : PluginError}
    (hmade : r.instantiate id rate m = (.error e, r', m')) :
    AddsCalls (fun _ call => call.Makes) m.journal m'.journal := by
  -- No file, no library, or no instance: only the last comes after a call.
  obtain ⟨_, rfl⟩ | ⟨p, hacquired⟩ | ⟨p, h, r₁, m₁, m₂, hacquired, hfailed, hletGo⟩ :=
    instantiate_error hmade
  · exact adds_refl _ _
  · exact addsCalls_acquire hacquired
  · obtain ⟨listedAs, calls, hmakes, rfl⟩ := make_error hfailed
    have hleft := @addsCalls_letGo (fun _ call => call.Makes) r₁ p
      ((m₁.noteCalls h.number listedAs calls).unshare h.number)
    rw [hletGo] at hleft
    exact (((addsCalls_acquire hacquired).trans (m₁.addsCalls_noteCalls listedAs hmakes)).trans
      (Linker.addsCalls_unshare _ _)).trans hleft

/-- An instantiation that makes an instance makes no calls but the one for that, into the library
that the instance then uses. -/
theorem addsCalls_instantiate_ok (hmade : r.instantiate id rate m = (.ok i, r', m')) :
    AddsCalls (fun n call => i.library = n ∧ call.Makes) m.journal m'.journal ∧
      ∃ listedAs call, call.Makes ∧
        AddsEvent (.called i.library listedAs call) m.journal m'.journal := by
  obtain ⟨p, h, r₁, m₁, m₂, hacquired, hmake, _, rfl⟩ := instantiate_ok hmade
  obtain ⟨_, _, hlibrary, d, _, rfl⟩ := make_ok hmake
  rw [hlibrary]
  -- All that is called is the library that was acquired, which the instance is made from.
  let own (n : Nat) (call : NativeCall) : Prop := h.number = n ∧ call.Makes
  let called : Machine :=
    m₁.noteCalls h.number (Instance.engineOf d).listedAs [Instance.makingCall d rate]
  have hmakes := Instance.makes_makingCall d rate
  have hadds : AddsCalls own m.journal m₁.journal := addsCalls_acquire hacquired
  have hcalled : AddsCalls own m₁.journal called.journal := by
    refine m₁.addsCalls_noteCalls _ fun call hcall => ?_
    rw [List.mem_singleton.mp hcall]
    exact ⟨rfl, hmakes⟩
  have hleft : AddsCalls own called.journal ((called.share h.number).unshare h.number).journal :=
    Linker.addsCalls_unshare _ _
  exact ⟨(hadds.trans hcalled).trans hleft, _, _, hmakes,
    ((addsEvent_snoc m₁.journal _).after hadds).before hleft⟩

end Rack

namespace Bench

variable {b b' : Bench} {name : String} {order : Order}

/-! ## Instances and their libraries -/

/-- An instance was there before, with the same rack and library. -/
def Knows (b : Bench) (i : Instance) : Prop :=
  ∃ k ∈ b.instances, k.number = i.number ∧ k.rack = i.rack ∧ k.library = i.library

/-- An instance was there before, or it was made by a call into its library. -/
def KnowsOrMakes (b b' : Bench) (i : Instance) : Prop :=
  b.Knows i ∨ ∃ listedAs call, call.Makes ∧
    AddsEvent (.called i.library listedAs call) b.journal b'.journal

theorem knows_of_mem (hi : i ∈ b.instances) : b.Knows i := ⟨i, hi, rfl, rfl, rfl⟩

theorem knows_perform {k : Instance} (hslot : b.slot? name = some k) (op : Operation)
    (hi : i ∈ (b.perform name k op).2.instances) : b.Knows i := by
  rcases List.mem_cons.mp hi with rfl | hi
  · exact ⟨k, mem_of_slot? hslot, rfl, rfl, rfl⟩
  · exact knows_of_mem (mem_freeSlot hi)

theorem knows_connect {k : Instance} (hslot : b.slot? name = some k) (port : Nat)
    (samples : Option (List Single)) (hi : i ∈ (b.connect name k port samples).2.instances) :
    b.Knows i := by
  cases samples with
  | none =>
    rw [connect_none] at hi
    exact knows_perform hslot _ hi
  | some xs =>
    rw [connect_some] at hi
    have hknows : (b.fillBuffer name port xs).Knows i := knows_perform hslot _ hi
    exact hknows

/-- The instances after an instantiation were there before it, but for the one that is made. -/
theorem knows_instantiate (hi : i ∈ (b.instantiate r id rate name).2.instances) :
    b.Knows i ∨ (b.instantiate r id rate name).1 = .ok i := by
  unfold instantiate at hi ⊢
  rcases hmade : r.instantiate id rate b.machine with ⟨e | k, r', m'⟩
  · rw [hmade] at hi
    exact Or.inl (knows_of_mem hi)
  · rw [hmade] at hi
    dsimp only at hi ⊢
    have hafter : ∀ j ∈ ((b.putRack r' m').putSlot name k).instances, b.Knows j ∨ k = j := by
      intro j hj
      rcases List.mem_cons.mp hj with rfl | hj
      · exact Or.inr rfl
      · exact Or.inl (knows_of_mem (mem_freeSlot (b := b) hj))
    rcases hslot : b.slot? name with _ | old
    · rw [hslot] at hi
      exact (hafter i hi).imp_right (congrArg Except.ok)
    · rw [hslot] at hi
      dsimp only at hi ⊢
      unfold instances at hi
      rw [slots_finish] at hi
      exact (hafter i hi).imp_right (congrArg Except.ok)

theorem knowsOrMakes_of_slots (hslots : b'.slots = b.slots) :
    ∀ i ∈ b'.instances, b.KnowsOrMakes b' i := by
  intro i hi
  unfold instances at hi
  rw [hslots] at hi
  exact Or.inl (knows_of_mem hi)

/-! ## Calls for an instance -/

theorem addsCalls_finish (b : Bench) (i : Instance) :
    AddsCalls (fun n _ => i.library = n) b.journal (b.finish i).journal := by
  have hfinished : AddsCalls (fun n _ => i.library = n) b.journal (i.finish b.machine).journal :=
    ((b.machine.addsCalls_noteCalls _ fun _ _ => rfl).trans (Linker.addsCalls_unshare _ _)).trans
      (adds_snoc trivial)
  unfold finish
  dsimp only
  split
  · exact hfinished
  · exact hfinished.trans (Rack.addsCalls_released _ _ _)

theorem addsCalls_perform (b : Bench) (name : String) (i : Instance) (op : Operation) :
    AddsCalls (fun n _ => i.library = n) b.journal (b.perform name i op).2.journal :=
  b.machine.addsCalls_noteCalls _ fun _ _ => rfl

theorem addsCalls_connect (b : Bench) (name : String) (i : Instance) (port : Nat)
    (samples : Option (List Single)) :
    AddsCalls (fun n _ => i.library = n) b.journal (b.connect name i port samples).2.journal := by
  cases samples with
  | none =>
    rw [connect_none]
    exact addsCalls_perform b name i _
  | some xs =>
    rw [connect_some]
    exact addsCalls_perform (b.fillBuffer name port xs) name i _

/-- An instantiation calls the library of the instance that had the name, or it makes a call that
makes the instance, into the library that this then uses. -/
theorem addsCalls_instantiate (b : Bench) (r : Rack) (id : Identifier) (rate : Single)
    (name : String) :
    AddsCalls (fun n call => (∃ old, b.slot? name = some old ∧ old.library = n) ∨
        call.Makes ∧ ∀ i, (b.instantiate r id rate name).1 = .ok i → i.library = n)
      b.journal (b.instantiate r id rate name).2.journal ∧
    ∀ i, (b.instantiate r id rate name).1 = .ok i → ∃ listedAs call, call.Makes ∧
      AddsEvent (.called i.library listedAs call) b.journal
        (b.instantiate r id rate name).2.journal := by
  unfold instantiate
  rcases hmade : r.instantiate id rate b.machine with ⟨e | k, r', m'⟩
  · refine ⟨(Rack.addsCalls_instantiate_error hmade).weaken fun n call hmakes => ?_, ?_⟩
    · refine Or.inr ⟨hmakes, fun i hi => ?_⟩
      cases hi
    · intro i hi
      cases hi
  · obtain ⟨hadds, listedAs, call, hmakes, hcalled⟩ := Rack.addsCalls_instantiate_ok hmade
    dsimp only
    -- The instance that had the name is ended last, by calls into its own library.
    rcases hslot : b.slot? name with _ | old
    · refine ⟨hadds.weaken fun n call hown => ?_, ?_⟩
      · refine Or.inr ⟨hown.2, fun i hi => ?_⟩
        cases hi
        exact hown.1
      · intro i hi
        cases hi
        exact ⟨listedAs, call, hmakes, hcalled⟩
    · have hended := addsCalls_finish ((b.putRack r' m').putSlot name k) old
      refine ⟨(hadds.weaken fun n call hown => ?_).trans (hended.weaken fun n call hold => ?_), ?_⟩
      · refine Or.inr ⟨hown.2, fun i hi => ?_⟩
        cases hi
        exact hown.1
      · exact Or.inl ⟨old, rfl, hold⟩
      · intro i hi
        cases hi
        exact ⟨listedAs, call, hmakes, hcalled.before hended⟩

/-! ## One order -/

/-- The instance that an order concerns: the one that has its name. -/
def concerned? (b : Bench) : Order → Option Instance
  | .instantiate _ _ _ name => b.slot? name
  | .perform name _ => b.slot? name
  | .connect name _ _ => b.slot? name
  | .release name => b.slot? name
  | _ => none

/-- A call that can be made in an order: it is made for the instance that the order concerns, into
its library, or it makes an instance that then uses the library. -/
def MayCall (b : Bench) (order : Order) (n : Nat) (call : NativeCall) : Prop :=
  (∃ i, b.concerned? order = some i ∧ i.library = n) ∨
    (∃ rack id rate name, order = .instantiate rack id rate name) ∧ call.Makes ∧
      ∀ i ∈ (b.follow order).instances, ¬ b.Knows i → i.library = n

theorem follow_instantiate (hrack : b.rack? n = some r) :
    b.follow (.instantiate n id rate name) = (b.instantiate r id rate name).2 := by
  simp only [follow, withRack, hrack]

/-- An order calls no other libraries than it may. -/
theorem addsCalls_follow (b : Bench) (order : Order) :
    AddsCalls (b.MayCall order) b.journal (b.follow order).journal := by
  let Fine (b' : Bench) : Prop := AddsCalls (b.MayCall order) b.journal b'.journal
  have hnothing : Fine b := adds_refl _ _
  cases order with
  | addRack kind searchPath => exact adds_refl _ _
  | dropRack n => exact withRack_of (P := Fine) hnothing fun r _ => Rack.addsCalls_discard r _
  | unloadUnused n =>
    exact withRack_of (P := Fine) hnothing fun r _ => Rack.addsCalls_unloadUnused r _
  | instantiate n id rate name =>
    refine withRack_of (P := Fine) hnothing fun r hrack => ?_
    refine (addsCalls_instantiate b r id rate name).1.weaken fun k call hcall => ?_
    refine hcall.imp_right fun hmade => ⟨⟨n, id, rate, name, rfl⟩, hmade.1, fun i hi hnew => ?_⟩
    rw [follow_instantiate hrack] at hi
    exact hmade.2 i ((knows_instantiate hi).resolve_left hnew)
  | perform name op =>
    refine withSlot_of (P := Fine) hnothing fun i hslot => ?_
    exact (addsCalls_perform b name i op).weaken fun n _ hn => Or.inl ⟨i, hslot, hn⟩
  | connect name port samples =>
    refine withSlot_of (P := Fine) hnothing fun i hslot => ?_
    exact (addsCalls_connect b name i port samples).weaken fun n _ hn => Or.inl ⟨i, hslot, hn⟩
  | release name =>
    refine withSlot_of (P := Fine) hnothing fun i hslot => ?_
    exact (addsCalls_finish (b.freeSlot name) i).weaken fun n _ hn => Or.inl ⟨i, hslot, hn⟩
  | files t => exact adds_refl _ _
  | register p s => exact adds_refl _ _

/-- An order gives an instance no other library than the one that it was made from. -/
theorem knowsOrMakes_follow (b : Bench) (order : Order) :
    ∀ i ∈ (b.follow order).instances, b.KnowsOrMakes (b.follow order) i := by
  let Fine (b' : Bench) : Prop := ∀ i ∈ b'.instances, b.KnowsOrMakes b' i
  have hnothing : Fine b := knowsOrMakes_of_slots rfl
  cases order with
  | addRack kind searchPath => exact knowsOrMakes_of_slots rfl
  | dropRack n => exact withRack_of (P := Fine) hnothing fun _ _ => knowsOrMakes_of_slots rfl
  | unloadUnused n => exact withRack_of (P := Fine) hnothing fun _ _ => knowsOrMakes_of_slots rfl
  | instantiate n id rate name =>
    refine withRack_of (P := Fine) hnothing fun r _ i hi => ?_
    exact (knows_instantiate hi).imp_right ((addsCalls_instantiate b r id rate name).2 i)
  | perform name op =>
    exact withSlot_of (P := Fine) hnothing fun _ hslot _ hi => Or.inl (knows_perform hslot op hi)
  | connect name port samples =>
    exact withSlot_of (P := Fine) hnothing fun _ hslot _ hi =>
      Or.inl (knows_connect hslot port samples hi)
  | release name =>
    refine withSlot_of (P := Fine) hnothing fun _ _ i hi => ?_
    unfold instances release at hi
    rw [slots_finish] at hi
    exact Or.inl (knows_of_mem (mem_freeSlot hi))
  | files t => exact knowsOrMakes_of_slots rfl
  | register p s => exact knowsOrMakes_of_slots rfl

end Bench

end AudioHost
