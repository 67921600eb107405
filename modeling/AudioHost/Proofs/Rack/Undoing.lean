import AudioHost.Proofs.Native.Opening
import AudioHost.Proofs.Rack.Orders

/-!
Instantiations that fail. Whatever was done for the instance is undone: a library that was opened
for it is closed, and one that was open keeps its users, so that nothing is left of it but in the
journal.
-/

namespace AudioHost

variable {m m' : Machine} {r r' : Rack} {racks : List Rack} {live : List Instance} {h : Holding}
variable {p : Path} {n : Nat} {o : OpenLibrary} {id : Identifier} {rate : Single} {e : PluginError}

/-! ## Machines -/

namespace Machine

/-- The machine where more happened in native code, and the next library will have a number. -/
def later (m : Machine) (next : Nat) (new : List Event) : Machine :=
  m.withLinker { m.linker with next, journal := m.linker.journal ++ new }

theorem later_nothing (m : Machine) : m.later m.linker.next [] = m := by
  simp only [later, List.append_nil]
  rfl

theorem noteCalls_eq (m : Machine) (n : Nat) (listedAs : Option String)
    (calls : List NativeCall) :
    m.noteCalls n listedAs calls = m.later m.linker.next (calls.map (.called n listedAs)) := by
  induction calls generalizing m with
  | nil => exact m.later_nothing.symm
  | cons call calls ih =>
    refine (ih (m.note (.called n listedAs call))).trans ?_
    simp only [later, note, withLinker, Linker.note, List.map_cons, List.append_assoc,
      List.singleton_append]

/-- A guest of a library makes calls and leaves. -/
theorem unshare_noteCalls (hfind : m.linker.find? n = some o) (husers : 0 < o.users)
    (listedAs : Option String) (calls : List NativeCall) :
    ((m.share n).noteCalls n listedAs calls).unshare n =
      m.later m.linker.next (calls.map (.called n listedAs)) := by
  rw [noteCalls_eq]
  exact congrArg m.withLinker (Linker.unshare_share hfind husers _)

end Machine

/-! ## Books -/

namespace Rack

theorem holding?_updateHolding (hheld : r.holding? p = some h) (count : Nat → Nat) :
    (r.updateHolding p fun k => { k with live := count k.live }).holding? p =
      some { h with live := count h.live } := by
  unfold holding? at hheld ⊢
  have hsame : ((fun k : Holding => k.path.same p) ∘ fun k : Holding =>
      if k.path.same p then { k with live := count k.live } else k) = fun k => k.path.same p := by
    funext k
    simp only [Function.comp_apply]
    split <;> rfl
  have hp : h.path.same p = true := List.find?_some (p := fun k : Holding => k.path.same p) hheld
  simp only [updateHolding, List.find?_map, hsame, hheld, Option.map_some, hp, if_true]

theorem updateHolding_back (r : Rack) (p : Path) :
    (r.updateHolding p fun k => { k with live := k.live + 1 }).updateHolding p
      (fun k => { k with live := k.live - 1 }) = r := by
  have hback : (r.updateHolding p fun k => { k with live := k.live + 1 }).holdings.map
      (fun k : Holding => if k.path.same p then { k with live := k.live - 1 } else k) =
        r.holdings := by
    simp only [updateHolding, List.map_map]
    refine (List.map_congr_left fun k _ => ?_).trans (List.map_id _)
    simp only [Function.comp_apply, id_eq]
    split <;> simp
  unfold updateHolding at hback ⊢
  dsimp only at hback ⊢
  rw [hback]

/-- A reservation of a library that others use is given back. -/
theorem letGo_reserved (hheld : r.holding? p = some h) (hbusy : 0 < h.live) (m : Machine) :
    (r.updateHolding p fun k => { k with live := k.live + 1 }).letGo p m = (r, m) := by
  unfold letGo
  rw [holding?_updateHolding hheld fun live => live + 1]
  dsimp only
  rw [if_pos (Nat.succ_lt_succ hbusy), updateHolding_back]

/-- A reservation of a library that was opened for it is given back. -/
theorem letGo_opened (hheld : r.holding? p = none) (n : Nat) (e : Exports) (m : Machine) :
    ({ r with holdings := r.holdings ++ [⟨p, n, e, 1⟩] } : Rack).letGo p m =
      (r, (m.closeLibrary n).2) := by
  have hnone : ∀ k ∈ r.holdings, k.path.same p = false := by
    simpa [holding?] using hheld
  have hkept : r.holdings.filter (fun k => !k.path.same p) = r.holdings :=
    List.filter_eq_self.mpr fun k hk => by simp [hnone k hk]
  have hfound : ({ r with holdings := r.holdings ++ [⟨p, n, e, 1⟩] } : Rack).holding? p =
      some ⟨p, n, e, 1⟩ := by
    unfold holding? at hheld ⊢
    simp [List.find?_append, hheld, Path.same_refl]
  unfold letGo
  rw [hfound]
  simp [removeHolding, hkept, Path.same_refl]

end Rack

/-! ## Events -/

/-- What happens in an instantiation that fails, with the number that is next after it. No library
is found, or it is not opened; or an instance is asked for in vain, in a library that is open or in
one that is opened for it and closed again. -/
inductive Fails (l : Linker) : Nat → List Event → Prop
  | early : Fails l l.next []
  | unopened (p : Path) : Fails l l.next [.openFailed p]
  | held {n : Nat} {calls : List NativeCall} (listedAs : Option String)
    (hopen : ∃ o ∈ l.opened, o.number = n) (hmakes : ∀ call ∈ calls, call.Makes) :
    Fails l l.next (calls.map (.called n listedAs))
  | opened {calls : List NativeCall} (p : Path) (specimen : Bool) (listedAs : Option String)
    (hmakes : ∀ call ∈ calls, call.Makes) :
    Fails l (l.next + 1) (.opened l.next p specimen ::
      (calls.map (.called l.next listedAs) ++ [.closed l.next p]))

namespace Custody

/-- An instance of a library that is held is asked for in vain. -/
theorem undone_held (c : Custody m (r :: racks) live nobody nobody)
    (hheld : r.holding? p = some h) (listedAs : Option String) {calls : List NativeCall}
    (hmakes : ∀ call ∈ calls, call.Makes)
    (hletGo : (r.updateHolding p fun k => { k with live := k.live + 1 }).letGo p
      (((m.share h.number).noteCalls h.number listedAs calls).unshare h.number) = (r', m')) :
    r' = r ∧ ∃ next new, Fails m.linker next new ∧ m' = m.later next new := by
  obtain ⟨hh, _⟩ := Rack.mem_of_holding? hheld
  obtain ⟨o, hfind, ho, hnumber, _⟩ :=
    c.linker.find?_of_used (uses_pos List.mem_cons_self hh live nobody)
  rw [Rack.letGo_reserved hheld ((c.sound r List.mem_cons_self).busy h hh),
    Machine.unshare_noteCalls hfind (c.linker.used o ho)] at hletGo
  cases hletGo
  exact ⟨rfl, _, _, .held listedAs ⟨o, ho, hnumber⟩ hmakes, rfl⟩

/-- An instance of a library that is opened for it is asked for in vain. -/
theorem undone_opened (c : Custody m (r :: racks) live nobody nobody)
    (hheld : r.holding? p = none) {l : Linker}
    (hopen : m.linker.openAt m.files p = (.ok o, l)) (listedAs : Option String)
    {calls : List NativeCall} (hmakes : ∀ call ∈ calls, call.Makes)
    (hletGo : ({ r with holdings := r.holdings ++ [⟨p, o.number, o.exports, 1⟩] } : Rack).letGo p
      ((((m.withLinker l).share o.number).noteCalls o.number listedAs calls).unshare o.number) =
        (r', m')) :
    r' = r ∧ ∃ next new, Fails m.linker next new ∧ m' = m.later next new := by
  have hfresh := c.linker.fresh
  obtain ⟨hnumber, rfl, husers, specimen, rfl⟩ := Linker.openAt_ok hopen
  have hfound := Linker.find?_withOpened hfresh hnumber
    (m.linker.journal ++ [.opened m.linker.next o.path specimen])
  rw [Rack.letGo_opened hheld, hnumber,
    Machine.unshare_noteCalls hfound (husers ▸ Nat.one_pos)] at hletGo
  cases hletGo
  refine ⟨rfl, _, _, .opened o.path specimen listedAs hmakes, ?_⟩
  -- Only its opener used the library, so closing ends it.
  have hclosed := Linker.close_withOpened hfresh hnumber husers
    (m.linker.journal ++ [.opened m.linker.next o.path specimen] ++
      calls.map (.called m.linker.next listedAs))
  refine (congrArg (fun x => m.withLinker x.2) hclosed).trans ?_
  simp only [Machine.later, List.append_assoc, List.cons_append, List.nil_append]

/-- An instantiation that fails leaves its rack as it was, and the machine but for the journal and
the number of the next library. -/
theorem undone (c : Custody m (r :: racks) live nobody nobody)
    (hmade : r.instantiate id rate m = (.error e, r', m')) :
    r' = r ∧ ∃ next new, Fails m.linker next new ∧ m' = m.later next new := by
  obtain ⟨rfl, rfl⟩ | ⟨p, hacquired⟩ | ⟨p, h, r₁, m₁, m₂, hacquired, hfailed, hletGo⟩ :=
    Rack.instantiate_error hmade
  · exact ⟨rfl, _, _, .early, m'.later_nothing.symm⟩
  · obtain ⟨rfl, l, hopen, rfl⟩ := Rack.acquire_error hacquired
    rw [Linker.openAt_error hopen]
    exact ⟨rfl, _, _, .unopened p, rfl⟩
  · obtain ⟨listedAs, calls, hmakes, rfl⟩ := Rack.make_error hfailed
    obtain ⟨hheld, rfl, rfl⟩ | ⟨hheld, o, l, hopen, rfl, rfl, rfl⟩ := Rack.acquire_ok hacquired
    · exact c.undone_held hheld listedAs hmakes hletGo
    · exact c.undone_opened hheld hopen listedAs hmakes hletGo

end Custody

namespace Bench

variable {b : Bench}

/-! ## The law -/

/-- Whatever was asked of a bench before: an instantiation that fails leaves its rack, with the
libraries that are held, their counts and the instances that are tracked, all other racks and
instances, and all libraries that were open as they were. A library that it opened is closed again,
and it calls no plugin but for making the instance. -/
theorem a_failed_instantiation_changes_nothing (files : FileTree)
    (sources : List (Path × LibrarySource)) (elsewhere : LibrarySource) (orders : List Order) :
    let b := (empty files sources elsewhere).run orders
    ∀ n r id rate name e b', b.rack? n = some r →
      b.instantiate r id rate name = (.error e, b') →
      (r.instantiate id rate b.machine).2.1 = r ∧
        ∃ next new, Fails b.machine.linker next new ∧
          b' = { b with machine := b.machine.later next new } := by
  intro b n r id rate name e b' hrack hfailed
  have hb : b.Sound := sound_run (sound_empty files sources elsewhere) orders
  obtain ⟨_, others, hperm, _, _⟩ := rack?_eq_some hrack hb.custody.racks_apart
  have c := hb.custody.perm hperm (.refl _)
  unfold instantiate at hfailed
  rcases hmade : r.instantiate id rate b.machine with ⟨e' | i, r', m'⟩
  · obtain ⟨rfl, next, new, hfails, rfl⟩ := c.undone hmade
    rw [hmade] at hfailed
    cases hfailed
    exact ⟨rfl, next, new, hfails, hb.putRack_self hrack _⟩
  · rw [hmade] at hfailed
    dsimp only at hfailed
    split at hfailed <;> cases hfailed

/-- While a tracker lives, an analyser of its library that cannot be made is asked for. -/
theorem an_analyser_that_cannot_be_made_leaves_the_tracker :
    ∃ r e b', (trial trackerMade).rack? 0 = some r ∧
      (trial trackerMade).instantiate r ⟨.vamp, "l", "broken"⟩ .one "y" = (.error e, b') ∧
      b'.racks = (trial trackerMade).racks ∧
      b'.machine.linker.opened = (trial trackerMade).machine.linker.opened := by
  have hfails : ((trial trackerMade).rack? 0).map (fun r =>
      ((trial trackerMade).instantiate r ⟨.vamp, "l", "broken"⟩ .one "y").1.isOk) =
        some false := by
    decide +kernel
  obtain ⟨r, hrack, hnot⟩ := Option.map_eq_some_iff.mp hfails
  rcases hmade : (trial trackerMade).instantiate r ⟨.vamp, "l", "broken"⟩ .one "y" with ⟨e | i, b'⟩
  · obtain ⟨_, next, new, _, rfl⟩ := a_failed_instantiation_changes_nothing
      ⟨[([['l']], .file (.bytes []) false)]⟩ [] (.specimen .analysers) trackerMade
      0 r _ _ _ e b' hrack hmade
    exact ⟨r, e, _, hrack, hmade, rfl, rfl⟩
  · rw [hmade] at hnot
    cases hnot

end Bench

end AudioHost
