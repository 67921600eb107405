import AudioHost.Proofs.Rack.Undoing

/-!
Racks that stay. Whatever is asked of a bench, a rack keeps its number and its kind until it is
given up itself.
-/

namespace AudioHost

/-- Where keys differ, an element is found by its key. -/
theorem find?_of_nodup {α κ : Type} [BEq κ] [LawfulBEq κ] {key : α → κ} {xs : List α} {x : α}
    (hapart : (xs.map key).Nodup) (hx : x ∈ xs) : xs.find? (fun y => key y == key x) = some x := by
  have hsome : (xs.find? fun y => key y == key x).isSome :=
    List.find?_isSome.mpr ⟨x, hx, beq_self_eq_true (key x)⟩
  obtain ⟨y, hy⟩ := Option.isSome_iff_exists.mp hsome
  have hkey : key y = key x := by simpa using List.find?_some hy
  rw [hy, List.inj_on_of_nodup_map hapart (List.mem_of_find?_eq_some hy) hx hkey]

namespace Rack

variable {r r' : Rack} {m m' : Machine} {p : Path} {i : Instance} {id : Identifier} {rate : Single}

theorem letGo_kind (r : Rack) (p : Path) (m : Machine) : (r.letGo p m).1.kind = r.kind := by
  unfold letGo
  split
  · rfl
  · split <;> rfl

theorem released_number (r : Rack) (number : Nat) (m : Machine) :
    (r.released number m).1.number = r.number := by
  unfold released
  split
  · rfl
  · exact letGo_number _ _ _

theorem released_kind (r : Rack) (number : Nat) (m : Machine) :
    (r.released number m).1.kind = r.kind := by
  unfold released
  split
  · rfl
  · exact letGo_kind _ _ _

theorem instantiate_ok_kind (hmade : r.instantiate id rate m = (.ok i, r', m')) :
    r'.kind = r.kind := by
  obtain ⟨p, h, r₁, m₁, m₂, hacquired, _, rfl, _⟩ := instantiate_ok hmade
  obtain ⟨_, rfl, _⟩ | ⟨_, _, _, _, _, rfl, _⟩ := acquire_ok hacquired <;> rfl

end Rack

namespace Bench

variable {b : Bench} {r r' : Rack} {m : Machine} {n k : Nat} {kind : PluginKind} {order : Order}

/-- A rack of a number and a kind is there. -/
def HasRackOf (b : Bench) (n : Nat) (kind : PluginKind) : Prop :=
  ∃ r ∈ b.racks, r.number = n ∧ r.kind = kind

theorem rack?_of_mem (hapart : (b.racks.map Rack.number).Nodup) (hr : r ∈ b.racks) :
    b.rack? r.number = some r :=
  find?_of_nodup hapart hr

theorem HasRackOf.putRack (h : b.HasRackOf n kind) (hapart : (b.racks.map Rack.number).Nodup)
    (hrack : b.rack? k = some r) (hnumber : r'.number = r.number) (hkind : r'.kind = r.kind)
    (m : Machine) : (b.putRack r' m).HasRackOf n kind := by
  obtain ⟨q, hq, rfl, rfl⟩ := h
  refine ⟨_, List.mem_map.mpr ⟨q, hq, rfl⟩, ?_⟩
  split
  · next hsame =>
    -- The rack that is replaced is the only one of its number.
    obtain rfl := List.inj_on_of_nodup_map hapart hq (List.mem_of_find?_eq_some hrack)
      (hsame.trans hnumber)
    exact ⟨hnumber, hkind⟩
  · exact ⟨rfl, rfl⟩

theorem HasRackOf.finish (h : b.HasRackOf n kind) (hapart : (b.racks.map Rack.number).Nodup)
    (i : Instance) : (b.finish i).HasRackOf n kind := by
  have hfinished : ({ b with machine := i.finish b.machine } : Bench).HasRackOf n kind := h
  unfold Bench.finish
  dsimp only
  split
  · exact hfinished
  · next r hrack =>
    exact hfinished.putRack hapart hrack (r.released_number _ _) (r.released_kind _ _) _

theorem HasRackOf.instantiate (h : b.HasRackOf n kind) (hb : b.Sound) (hrack : b.rack? k = some r)
    (id : Identifier) (rate : Single) (name : String) :
    (b.instantiate r id rate name).2.HasRackOf n kind := by
  obtain ⟨_, others, hperm, _, _⟩ := rack?_eq_some hrack hb.custody.racks_apart
  have c := hb.custody.perm hperm (.refl _)
  unfold Bench.instantiate
  rcases hmade : r.instantiate id rate b.machine with ⟨e | i, r', m'⟩
  · obtain ⟨rfl, _⟩ := c.undone hmade
    exact h.putRack hb.custody.racks_apart hrack rfl rfl m'
  · have hput : (b.putRack r' m').HasRackOf n kind :=
      h.putRack hb.custody.racks_apart hrack (c.instantiate_ok hmade).1
        (Rack.instantiate_ok_kind hmade) m'
    dsimp only
    split
    · next old _ =>
      have hapart : ((b.putRack r' m').racks.map Rack.number).Nodup :=
        numbers_putRack b r' m' ▸ hb.custody.racks_apart
      exact HasRackOf.finish (b := (b.putRack r' m').putSlot name i) hput hapart old
    · exact hput

theorem HasRackOf.connect (h : b.HasRackOf n kind) (name : String) (i : Instance) (port : Nat)
    (samples : Option (List Single)) : (b.connect name i port samples).2.HasRackOf n kind := by
  cases samples <;> exact h

/-- A rack stays in every order that does not give it up. -/
theorem HasRackOf.follow (h : b.HasRackOf n kind) (hb : b.Sound) (hkept : order ≠ .dropRack n) :
    (b.follow order).HasRackOf n kind := by
  let Stays (b' : Bench) : Prop := b'.HasRackOf n kind
  have hapart := hb.custody.racks_apart
  cases order with
  | addRack kind searchPath =>
    obtain ⟨q, hq, hboth⟩ := h
    exact ⟨q, List.mem_append_left _ hq, hboth⟩
  | dropRack k =>
    refine withRack_of (P := Stays) h fun r hrack => ?_
    obtain ⟨q, hq, rfl, rfl⟩ := h
    have hnumber : r.number = k := by simpa using List.find?_some hrack
    refine ⟨q, List.mem_filter.mpr ⟨hq, bne_iff_ne.mpr fun hsame => ?_⟩, rfl, rfl⟩
    exact hkept (congrArg Order.dropRack (hnumber.symm.trans hsame.symm))
  | unloadUnused k =>
    refine withRack_of (P := Stays) h fun r hrack => ?_
    obtain ⟨hunused, hput⟩ := unloadUnused_eq hb hrack
    simp only [hunused, hput]
    exact h
  | instantiate k id rate name =>
    exact withRack_of (P := Stays) h fun r hrack => h.instantiate hb hrack id rate name
  | perform name op => exact withSlot_of (P := Stays) h fun _ _ => h
  | connect name port samples =>
    exact withSlot_of (P := Stays) h fun i _ => h.connect name i port samples
  | release name =>
    exact withSlot_of (P := Stays) h fun i _ =>
      HasRackOf.finish (b := b.freeSlot name) h hapart i
  | files t => exact h
  | register p s => exact h

end Bench

end AudioHost
