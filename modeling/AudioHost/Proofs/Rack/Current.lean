import AudioHost.Proofs.Machine.Keeping
import AudioHost.Proofs.Rack.Undoing

/-!
Whether the libraries that racks hold are still what lies at their paths. A rack holds a library
only after it found a table of its kind in it. While the files and what was put at paths stay, each
library that is opened meanwhile exports what would be loaded at its path again.
-/

namespace AudioHost

variable {m m' : Machine} {r r' : Rack} {p : Path} {h : Holding} {i : Instance} {n : Nat}
variable {id : Identifier} {rate : Single} {e : PluginError}

/-- A holding exports what lies at its path on a machine, with a table of a kind. -/
def Machine.Backs (m : Machine) (kind : PluginKind) (h : Holding) : Prop :=
  (∃ fault, m.load h.path = .ok (h.exports, fault)) ∧ (h.exports.table? kind).isSome

theorem Machine.Keeps.backs {kind : PluginKind} (hkeeps : Keeps m m') (h : m.Backs kind k) :
    m'.Backs kind k := by
  unfold Backs
  rw [hkeeps.load_eq]
  exact h

/-! ## What stays at the paths -/

namespace Machine

theorem keeps_foldl {f : Machine → Holding → Machine} (hf : ∀ m h, Keeps m (f m h))
    (hs : List Holding) (m : Machine) : Keeps m (hs.foldl f m) := by
  induction hs generalizing m with
  | nil => exact keeps_refl m
  | cons h hs ih => exact (hf m h).trans (ih _)

theorem keeps_finish (i : Instance) (m : Machine) : Keeps m (i.finish m) :=
  ((keeps_noteCalls m _ _ _).trans (keeps_unshare _ _)).trans (keeps_note _ _)

theorem keeps_letGo (r : Rack) (p : Path) (m : Machine) : Keeps m (r.letGo p m).2 := by
  unfold Rack.letGo
  split
  · exact keeps_refl m
  · split
    · exact keeps_refl m
    · exact keeps_closeLibrary m _

theorem keeps_released (r : Rack) (n : Nat) (m : Machine) : Keeps m (r.released n m).2 := by
  unfold Rack.released
  split
  · exact keeps_refl m
  · exact keeps_letGo _ _ m

theorem keeps_unloadUnused (r : Rack) (m : Machine) : Keeps m (r.unloadUnused m).2.2 :=
  keeps_foldl (fun m h => keeps_closeLibrary m h.number) _ m

theorem keeps_discard (r : Rack) (m : Machine) : Keeps m (r.discard m) :=
  (keeps_unloadUnused r m).trans (keeps_foldl (fun m h => keeps_unshare m h.number) _ _)

theorem keeps_acquire {acquired : Except PluginError Holding}
    (ho : r.acquire p m = (acquired, r', m')) : Keeps m m' := by
  have hopened := keeps_withLinker_openAt m p
  cases acquired with
  | error e =>
    obtain ⟨_, l, hl, rfl⟩ := Rack.acquire_error ho
    rw [hl] at hopened
    exact hopened
  | ok h =>
    obtain ⟨_, _, rfl⟩ | ⟨_, o, l, hl, _, _, rfl⟩ := Rack.acquire_ok ho
    · exact keeps_share m _
    · rw [hl] at hopened
      exact hopened.trans (keeps_share _ _)

theorem keeps_make_ok (hmade : r.make id rate p h m = (.ok i, m')) : Keeps m m' := by
  obtain ⟨_, _, _, d, _, rfl⟩ := Rack.make_ok hmade
  have hcalled := keeps_noteCalls m h.number (Instance.engineOf d).listedAs
    [Instance.makingCall d rate]
  exact ⟨hcalled.files, hcalled.sources, hcalled.elsewhere, hcalled.later⟩

theorem keeps_instantiate_ok (hmade : r.instantiate id rate m = (.ok i, r', m')) :
    Keeps m m' := by
  obtain ⟨p, h, r₁, m₁, m₂, hacquired, hmake, _, rfl⟩ := Rack.instantiate_ok hmade
  exact ((keeps_acquire hacquired).trans (keeps_make_ok hmake)).trans (keeps_unshare _ _)

theorem keeps_instantiate_error (hmade : r.instantiate id rate m = (.error e, r', m')) :
    Keeps m m' := by
  obtain ⟨_, rfl⟩ | ⟨p, hacquired⟩ | ⟨p, h, r₁, m₁, m₂, hacquired, hfailed, hletGo⟩ :=
    Rack.instantiate_error hmade
  · exact keeps_refl _
  · exact keeps_acquire hacquired
  · obtain ⟨listedAs, calls, _, rfl⟩ := Rack.make_error hfailed
    have hleft := keeps_letGo r₁ p ((m₁.noteCalls h.number listedAs calls).unshare h.number)
    rw [hletGo] at hleft
    exact (((keeps_acquire hacquired).trans (keeps_noteCalls m₁ _ _ _)).trans
      (keeps_unshare _ _)).trans hleft

end Machine

/-! ## What racks hold -/

namespace Rack

/-- What a rack holds of the libraries from a number on is still what lies at their paths. -/
def Current (r : Rack) (m : Machine) (n : Nat) : Prop :=
  ∀ h ∈ r.holdings, n ≤ h.number → m.Backs r.kind h

theorem Current.keeps (hr : r.Current m n) (hkeeps : m.Keeps m') : r.Current m' n :=
  fun h hh hn => hkeeps.backs (hr h hh hn)

/-- A rack that opens nothing stays current. -/
theorem Current.of_held (hr : r.Current m n) (hkind : r'.kind = r.kind)
    (hfrom : ∀ k ∈ r'.holdings, ∃ h ∈ r.holdings,
      k.path = h.path ∧ k.number = h.number ∧ k.exports = h.exports) : r'.Current m n := by
  intro k hk hn
  obtain ⟨h, hh, hpath, hnumber, hexports⟩ := hfrom k hk
  have hbacks := hr h hh (hnumber ▸ hn)
  rw [Machine.Backs, hkind, hpath, hexports]
  exact hbacks

theorem Current.updateHolding (hr : r.Current m n) (p : Path) (count : Nat → Nat) :
    (r.updateHolding p fun k => { k with live := count k.live }).Current m n := by
  refine hr.of_held rfl fun k hk => ?_
  obtain ⟨h, hh, rfl⟩ := List.mem_map.mp hk
  refine ⟨h, hh, ?_⟩
  split <;> exact ⟨rfl, rfl, rfl⟩

theorem Current.letGo (hr : r.Current m n) (p : Path) (m' : Machine) :
    (r.letGo p m').1.Current m n := by
  unfold Rack.letGo
  split
  · exact hr
  · split
    · exact hr.updateHolding p fun live => live - 1
    · exact fun h hh => hr h (List.mem_filter.mp hh).1

theorem Current.released (hr : r.Current m n) (number : Nat) (m' : Machine) :
    (r.released number m').1.Current m n := by
  unfold Rack.released
  split
  · exact hr
  · next p _ =>
    have huntracked :
        Current { r with tracked := r.tracked.filter fun e => e.1 != number } m n := hr
    exact huntracked.letGo p m'

theorem Current.unloadUnused (hr : r.Current m n) (m' : Machine) :
    (r.unloadUnused m').2.1.Current m n :=
  fun h hh => hr h (List.mem_filter.mp hh).1

theorem table_of_find {kind : PluginKind} {exports : Exports} {label : String} {d : Descriptor}
    (h : find kind p exports label = .ok d) : (exports.table? kind).isSome := by
  unfold find at h
  split at h
  · cases h
  · next t ht => rw [ht, Option.isSome_some]

/-- An instance is made from what lies at the path of its library, if that is opened for it. -/
theorem Current.instantiate_ok (hr : r.Current m n)
    (hmade : r.instantiate id rate m = (.ok i, r', m')) : r'.Current m n := by
  obtain ⟨p, h, r₁, m₁, m₂, hacquired, hmake, rfl, _⟩ := Rack.instantiate_ok hmade
  obtain ⟨_, rfl, _⟩ | ⟨_, o, l, hopen, rfl, rfl, _⟩ := Rack.acquire_ok hacquired
  · exact hr.updateHolding p fun live => live + 1
  · obtain ⟨_, _, _, d, hfound, _⟩ := Rack.make_ok hmake
    intro k hk hn
    rcases List.mem_append.mp hk with hk | hk
    · exact hr k hk hn
    · -- The descriptor was found in a table, so the new holding has one.
      rw [List.mem_singleton.mp hk]
      exact ⟨⟨o.closeFault, Linker.load_of_openAt hopen⟩, table_of_find hfound⟩

end Rack

/-! ## Benches -/

/-- The files are others after an order, or what was put at paths. -/
def Order.Changes : Order → Prop
  | .files _ => True
  | .register _ _ => True
  | _ => False

namespace Bench

variable {b b' : Bench} {name : String} {order : Order}

/-- The racks of a bench are current. -/
def Current (b : Bench) (n : Nat) : Prop := ∀ r ∈ b.racks, r.Current b.machine n

theorem Current.putRack (hb : b.Current n) (hr : r.Current b.machine n)
    (hkeeps : b.machine.Keeps m) : (b.putRack r m).Current n := by
  intro q hq
  obtain ⟨old, hold, rfl⟩ := List.mem_map.mp hq
  split
  · exact hr.keeps hkeeps
  · exact (hb old hold).keeps hkeeps

theorem Current.withMachine (hb : b.Current n) (hkeeps : b.machine.Keeps m) :
    { b with machine := m }.Current n :=
  fun r hr => (hb r hr).keeps hkeeps

/-- A bench goes on: the same lies at every path, and the racks stay current from any number on. -/
structure GoesOn (b b' : Bench) : Prop where
  keeps : b.machine.Keeps b'.machine
  current : ∀ n, b.Current n → b'.Current n

theorem goesOn_refl (b : Bench) : GoesOn b b := ⟨Machine.keeps_refl _, fun _ h => h⟩

theorem GoesOn.trans {b'' : Bench} (h : GoesOn b b') (h' : GoesOn b' b'') : GoesOn b b'' :=
  ⟨h.keeps.trans h'.keeps, fun n hn => h'.current n (h.current n hn)⟩

theorem goesOn_withMachine (hkeeps : b.machine.Keeps m) : GoesOn b { b with machine := m } :=
  ⟨hkeeps, fun _ hb => hb.withMachine hkeeps⟩

/-- Who has which name does not matter. -/
theorem GoesOn.rename (h : GoesOn b b') (slots slots' : List (String × Instance)) :
    GoesOn { b with slots } { b' with slots := slots' } :=
  ⟨h.keeps, h.current⟩

/-- A rack goes on in its place. -/
theorem goesOn_putRack (hr : r ∈ b.racks) (hkeeps : b.machine.Keeps m)
    (hcurrent : ∀ n, r.Current b.machine n → r'.Current b.machine n) :
    GoesOn b (b.putRack r' m) :=
  ⟨hkeeps, fun n hb => hb.putRack (hcurrent n (hb r hr)) hkeeps⟩

theorem mem_of_rack? (h : b.rack? n = some r) : r ∈ b.racks := List.mem_of_find?_eq_some h

theorem goesOn_finish (b : Bench) (i : Instance) : GoesOn b (b.finish i) := by
  have hfinished := goesOn_withMachine (b := b) (Machine.keeps_finish i b.machine)
  unfold finish
  dsimp only
  split
  · exact hfinished
  · next r hrack =>
    refine hfinished.trans (goesOn_putRack (mem_of_rack? hrack) ?_ fun n hr => ?_)
    · exact Machine.keeps_released _ _ _
    · exact hr.released _ _

theorem goesOn_instantiate (hb : b.Sound) (hrack : b.rack? n = some r) (id : Identifier)
    (rate : Single) (name : String) : GoesOn b (b.instantiate r id rate name).2 := by
  unfold instantiate
  rcases hmade : r.instantiate id rate b.machine with ⟨e | i, r', m'⟩
  · -- The rack is as it was, whatever was opened in vain.
    obtain ⟨_, others, hperm, _, _⟩ := rack?_eq_some hrack hb.custody.racks_apart
    obtain ⟨rfl, _⟩ := (hb.custody.perm hperm (.refl _)).undone hmade
    exact goesOn_putRack (mem_of_rack? hrack) (Machine.keeps_instantiate_error hmade)
      fun _ hr => hr
  · have hput : GoesOn b (b.putRack r' m') :=
      goesOn_putRack (mem_of_rack? hrack) (Machine.keeps_instantiate_ok hmade)
        fun _ hr => hr.instantiate_ok hmade
    have hnamed := hput.rename b.slots ((b.putRack r' m').putSlot name i).slots
    dsimp only
    split
    · exact hnamed.trans (goesOn_finish _ _)
    · exact hnamed

theorem goesOn_perform (b : Bench) (name : String) (i : Instance) (op : Operation) :
    GoesOn b (b.perform name i op).2 := by
  let t := i.engine.turn op b.machine.buffers
  have hcalled := Machine.keeps_noteCalls b.machine i.library t.engine.listedAs t.calls
  have hdone : GoesOn b { b with machine := (i.perform op b.machine).2.2 } :=
    goesOn_withMachine ⟨hcalled.files, hcalled.sources, hcalled.elsewhere, hcalled.later⟩
  exact hdone.rename b.slots _

theorem goesOn_connect (b : Bench) (name : String) (i : Instance) (port : Nat)
    (samples : Option (List Single)) : GoesOn b (b.connect name i port samples).2 := by
  cases samples with
  | none =>
    rw [connect_none]
    exact goesOn_perform b name i _
  | some xs =>
    have hfilled : GoesOn b (b.fillBuffer name port xs) :=
      goesOn_withMachine ⟨rfl, rfl, rfl, Nat.le_refl _⟩
    rw [connect_some]
    exact hfilled.trans (goesOn_perform _ name i _)

theorem goesOn_dropRack (b : Bench) (r : Rack) : GoesOn b (b.dropRack r) := by
  have hkeeps := Machine.keeps_discard r b.machine
  exact ⟨hkeeps, fun n hb q hq => (hb q (List.mem_filter.mp hq).1).keeps hkeeps⟩

theorem goesOn_addRack (b : Bench) (kind : PluginKind) (searchPath : List Path) :
    GoesOn b (b.addRack kind searchPath) := by
  refine ⟨⟨rfl, rfl, rfl, Nat.le_refl _⟩, fun n hb q hq => ?_⟩
  rcases List.mem_append.mp hq with hq | hq
  · exact (hb q hq).keeps ⟨rfl, rfl, rfl, Nat.le_refl _⟩
  · intro h hh
    rw [List.mem_singleton.mp hq] at hh
    cases hh

/-- A bench goes on in every order, unless that changes the files or what was put at paths. -/
theorem goesOn_follow (hb : b.Sound) (horder : ¬ order.Changes) : GoesOn b (b.follow order) := by
  have hnothing := goesOn_refl b
  cases order with
  | addRack kind searchPath => exact goesOn_addRack b kind searchPath
  | dropRack n => exact withRack_of (P := GoesOn b) hnothing fun r _ => goesOn_dropRack b r
  | unloadUnused n =>
    refine withRack_of (P := GoesOn b) hnothing fun r hrack => ?_
    exact goesOn_putRack (mem_of_rack? hrack) (Machine.keeps_unloadUnused r _)
      fun _ hr => hr.unloadUnused b.machine
  | instantiate n id rate name =>
    exact withRack_of (P := GoesOn b) hnothing fun r hrack =>
      goesOn_instantiate hb hrack id rate name
  | perform name op =>
    exact withSlot_of (P := GoesOn b) hnothing fun i _ => goesOn_perform b name i op
  | connect name port samples =>
    exact withSlot_of (P := GoesOn b) hnothing fun i _ => goesOn_connect b name i port samples
  | release name =>
    refine withSlot_of (P := GoesOn b) hnothing fun i _ => ?_
    exact (hnothing.rename b.slots _).trans (goesOn_finish (b.freeSlot name) i)
  | files t => exact absurd trivial horder
  | register p s => exact absurd trivial horder

/-- All libraries that racks hold have numbers below the next one, so that from there on every rack
is current. -/
theorem Sound.current (hb : b.Sound) : b.Current b.machine.linker.next := by
  intro r hr h hh hle
  obtain ⟨o, _, ho, hnumber, _⟩ :=
    hb.custody.linker.find?_of_used (uses_pos hr hh b.instances nobody)
  have hlt := hb.custody.linker.fresh o ho
  omega

end Bench

end AudioHost
