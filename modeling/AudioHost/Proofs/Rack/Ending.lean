import AudioHost.Proofs.Rack.Making

/-!
Ending an instance, and giving up a rack. An instance whose rack is there gives its library back to
it; the last one of a rack that is gone takes the library with it.
-/

namespace AudioHost

open Journal

variable {m m' : Machine} {r : Rack} {racks : List Rack} {live : List Instance}
variable {reserved guests : Nat → Nat} {i : Instance} {n : Nat}

/-! ## Instances -/

namespace Custody

/-- An instance is about to end, as a guest of its library, and its rack does not track it any
more. -/
theorem untrack (c : Custody m (r :: racks) (i :: live) nobody nobody)
    (hrack : i.rack = r.number) :
    Custody m ({ r with tracked := r.tracked.filter fun e => e.1 != i.number } :: racks) live
      (just i.library) (just i.library) := by
  obtain ⟨h, hh, hnumber⟩ := c.held_of_used List.mem_cons_self List.mem_cons_self hrack
  refine c.change rfl (fun l hl => ⟨l, hl, rfl, rfl⟩) ?_ (List.nodup_cons.mp c.live_apart).2
    (fun j hj => c.live_known j (List.mem_cons_of_mem i hj)) ?_ (Nat.le_refl _)
    (adds_refl (Event.EndsOnly noNumber noNumber) _)
  · intro q hq
    rcases List.mem_cons.mp hq with rfl | hq
    · exact (c.sound r List.mem_cons_self).untrack c.live_apart hrack
    · have hne : i.rack ≠ q.number := by
        rw [hrack]
        exact c.rack_ne hq
      refine ((c.sound q (List.mem_cons_of_mem r hq)).of_cons hne).reserved_congr fun k hk => ?_
      rw [← hnumber]
      exact just_of_ne (c.number_ne hh hq hk)
  · refine c.linker.congr fun n => ?_
    rw [uses, uses, usersOf_cons, holdersOf_cons, holdersOf_cons, nobody, Nat.add_zero,
      Nat.add_assoc]

/-- An instance is about to end, as a guest of its library, after its rack is gone. -/
theorem outlive (c : Custody m racks (i :: live) nobody nobody)
    (hgone : ∀ r ∈ racks, i.rack ≠ r.number) : Custody m racks live nobody (just i.library) where
  linker := by
    refine c.linker.congr fun n => ?_
    rw [uses, uses, usersOf_cons, nobody, Nat.add_zero, Nat.add_assoc]
  racks_apart := c.racks_apart
  live_apart := (List.nodup_cons.mp c.live_apart).2
  disjoint := c.disjoint
  sound := fun r hr => (c.sound r hr).of_cons (hgone r hr)
  racks_known := c.racks_known
  live_known := fun j hj => c.live_known j (List.mem_cons_of_mem i hj)
  opened_at := c.opened_at

/-- That an instance has let go is told. -/
theorem note_released (c : Custody m racks live reserved guests) (n : Nat) :
    Custody (m.note (.released n)) racks live reserved guests ∧
      AddsEnds noNumber noNumber m.journal (m.note (.released n)).journal := by
  have hadds : AddsEnds noNumber noNumber m.journal (m.note (.released n)).journal :=
    adds_snoc trivial
  have hlinker := c.linker.note (e := .released n) trivial (fun _ => rfl) (fun _ => rfl)
    (fun _ _ => nofun)
  exact ⟨c.withMachine hlinker (Nat.le_refl _) hadds, hadds⟩

/-- An instance ends while its rack is there. If its library ends, it is closed. -/
theorem finish (c : Custody m (r :: racks) (i :: live) nobody nobody)
    (hrack : i.rack = r.number) :
    (r.released i.number (i.finish m)).1.number = r.number ∧
      Custody (r.released i.number (i.finish m)).2
        ((r.released i.number (i.finish m)).1 :: racks) live nobody nobody ∧
      AddsEnds (· = i.library) noNumber m.journal (r.released i.number (i.finish m)).2.journal := by
  obtain ⟨p, hlookup, h, hh, hnumber, hsame⟩ :=
    (c.sound r List.mem_cons_self).lookup_tracked c.live_apart List.mem_cons_self hrack
  obtain ⟨c₁, hadds₁⟩ := c.noteCalls (uses_library_pos _ _ _ _) i.engine.listedAs i.engine.release
  -- Dropping the entry early changes nothing for the linker, where the instance becomes a guest.
  have c₂ := c₁.untrack hrack
  rw [← hnumber] at c₁ c₂ hadds₁ ⊢
  obtain ⟨c₃, hadds₃⟩ := c₂.unshare_of_used (uses_pos List.mem_cons_self hh _ _)
  obtain ⟨c₄, hadds₄⟩ := c₃.note_released i.number
  obtain ⟨c₅, hadds₅⟩ := c₄.letGo hh hsame
  unfold Rack.released Instance.finish
  rw [hlookup, ← hnumber]
  exact ⟨Rack.letGo_number _ _ _, c₅,
    ((hadds₁.trans hadds₃).trans hadds₄).of_none.trans hadds₅⟩

/-- An instance ends after its rack is gone. If its library ends, it is dropped. -/
theorem finish_alone (c : Custody m racks (i :: live) nobody nobody)
    (hgone : ∀ r ∈ racks, i.rack ≠ r.number) :
    Custody (i.finish m) racks live nobody nobody ∧
      AddsEnds noNumber (· = i.library) m.journal (i.finish m).journal := by
  obtain ⟨c₁, hadds₁⟩ := c.noteCalls (uses_library_pos _ _ _ _) i.engine.listedAs i.engine.release
  obtain ⟨c₂, hadds₂⟩ := (c₁.outlive hgone).unshare
  obtain ⟨c₃, hadds₃⟩ := c₂.note_released i.number
  have hdropped : AddsEnds noNumber (· = i.library)
      (m.noteCalls i.library i.engine.listedAs i.engine.release).journal
      ((m.noteCalls i.library i.engine.listedAs i.engine.release).unshare i.library).journal :=
    hadds₂.mono (fun _ hn => hn) fun _ hn => hn.1
  exact ⟨c₃, (hadds₁.of_none.trans hdropped).trans hadds₃.of_none⟩

/-! ## Operations -/

/-- Only the numbers of instances, their racks and their libraries matter. -/
theorem map (c : Custody m racks live reserved guests) (f : Instance → Instance)
    (hf : ∀ i, (f i).number = i.number ∧ (f i).rack = i.rack ∧ (f i).library = i.library) :
    Custody m racks (live.map f) reserved guests where
  linker := by
    refine c.linker.congr fun n => ?_
    rw [uses, uses, usersOf_map f fun i => (hf i).2.2]
  racks_apart := c.racks_apart
  live_apart := by
    have hnumbers : Instance.number ∘ f = Instance.number := funext fun i => (hf i).1
    rw [List.map_map, hnumbers]
    exact c.live_apart
  disjoint := c.disjoint
  sound := fun r hr => (c.sound r hr).map f hf
  racks_known := c.racks_known
  live_known := by
    intro j hj
    obtain ⟨i, hi, rfl⟩ := List.mem_map.mp hj
    rw [(hf i).1, (hf i).2.1]
    exact c.live_known i hi
  opened_at := c.opened_at

/-- The engine of an instance does not matter. -/
theorem engine (c : Custody m racks (i :: live) reserved guests) (e : Engine) :
    Custody m racks ({ i with engine := e } :: live) reserved guests := by
  -- All instances are mapped; the number picks out the one that changes.
  let f (j : Instance) : Instance := if j.number = i.number then { j with engine := e } else j
  have hf : ∀ j, (f j).number = j.number ∧ (f j).rack = j.rack ∧ (f j).library = j.library := by
    intro j
    unfold f
    split <;> exact ⟨rfl, rfl, rfl⟩
  have hfirst : f i = { i with engine := e } := if_pos rfl
  have hrest : live.map f = live := by
    refine (List.map_congr_left fun j hj => if_neg fun heq => ?_).trans (List.map_id _)
    exact (List.nodup_cons.mp c.live_apart).1 (heq ▸ List.mem_map.mpr ⟨j, hj, rfl⟩)
  have hmapped := c.map f hf
  rw [List.map_cons, hfirst, hrest] at hmapped
  exact hmapped

/-- An operation on an instance changes nothing but its engine, and it ends no library. -/
theorem perform (c : Custody m racks (i :: live) nobody nobody) (op : Operation) :
    Custody (i.perform op m).2.2 racks ((i.perform op m).2.1 :: live) nobody nobody ∧
      AddsEnds noNumber noNumber m.journal (i.perform op m).2.2.journal := by
  let t := i.engine.turn op m.buffers
  obtain ⟨c₁, hadds⟩ := c.noteCalls (uses_library_pos _ _ _ _) t.engine.listedAs t.calls
  have c₂ : Custody (i.perform op m).2.2 racks (i :: live) nobody nobody :=
    c₁.withMachine c₁.linker (Nat.le_refl _) (adds_refl (Event.EndsOnly noNumber noNumber) _)
  exact ⟨c₂.engine t.engine, hadds⟩

/-! ## Racks -/

theorem addRack (c : Custody m racks live nobody nobody) (kind : PluginKind)
    (searchPath : List Path) :
    Custody { m with next := m.next + 1 } (.empty m.next kind searchPath :: racks) live nobody
      nobody where
  linker := by
    refine c.linker.congr fun n => ?_
    rw [uses, uses, holdersOf_cons]
    exact congrArg (· + usersOf live n + nobody n) (Nat.zero_add _)
  racks_apart := by
    rw [List.map_cons, List.nodup_cons]
    refine ⟨?_, c.racks_apart⟩
    intro hmem
    obtain ⟨r, hr, heq⟩ := List.mem_map.mp hmem
    have hknown := c.racks_known r hr
    rw [heq] at hknown
    exact Nat.lt_irrefl _ hknown
  live_apart := c.live_apart
  disjoint := List.pairwise_cons.mpr ⟨by simp [Rack.empty], c.disjoint⟩
  sound := by
    intro r hr
    rcases List.mem_cons.mp hr with rfl | hr
    · refine Rack.sound_empty kind searchPath fun i hi heq => ?_
      have hknown := (c.live_known i hi).2
      omega
    · exact c.sound r hr
  racks_known := by
    intro r hr
    rcases List.mem_cons.mp hr with rfl | hr
    · exact Nat.lt_succ_self m.next
    · exact Nat.lt_succ_of_lt (c.racks_known r hr)
  live_known := by
    intro i hi
    obtain ⟨hnumber, hrack⟩ := c.live_known i hi
    exact ⟨Nat.lt_succ_of_lt hnumber, Nat.lt_succ_of_lt hrack⟩
  opened_at := by
    intro r hr h hh
    rcases List.mem_cons.mp hr with rfl | hr
    · cases hh
    · exact c.opened_at r hr h hh

end Custody

/-- Users leave libraries that others use. -/
theorem Machine.unshareAll {hs : List Holding} {others : Nat → Nat}
    (hlinker : m.linker.Sound fun n => (hs.countP fun h => h.number == n) + others n)
    (hused : ∀ h ∈ hs, 0 < others h.number) :
    let left := hs.foldl (fun m h => m.unshare h.number) m
    left.linker.Sound others ∧ left.next = m.next ∧
      AddsEnds noNumber noNumber m.journal left.journal := by
  induction hs generalizing m with
  | nil => exact ⟨hlinker.congr fun n => (by simp), rfl, adds_refl _ _⟩
  | cons h hs ih =>
    let left (n : Nat) : Nat := (hs.countP fun h => h.number == n) + others n
    have huses : ∀ n, ((h :: hs).countP fun h => h.number == n) + others n =
        left n + just h.number n := by
      intro n
      rw [List.countP_cons, if_beq_eq_just]
      unfold left
      omega
    obtain ⟨hleft, hadds⟩ := hlinker.unshare huses
    obtain ⟨hlast, hnext, hmore⟩ := @ih (m.unshare h.number) hleft
      fun k hk => hused k (List.mem_cons_of_mem h hk)
    refine ⟨hlast, hnext, Adds.trans (hadds.mono (fun _ hn => hn) ?_) hmore⟩
    rintro n ⟨rfl, hzero⟩
    -- The others still use each library, so none is dropped on the way.
    have hothers := hused h List.mem_cons_self
    unfold left at hzero
    omega

/-- Giving up a rack ends no library: its instances live on. -/
theorem Custody.discard (c : Custody m (r :: racks) live nobody nobody) :
    Custody (r.discard m) racks live nobody nobody ∧
      AddsEnds noNumber noNumber m.journal (r.discard m).journal := by
  have hlinker : m.linker.Sound fun n =>
      (r.holdings.countP fun h => h.number == n) + uses racks live nobody n := by
    refine c.linker.congr fun n => ?_
    rw [uses, uses, holdersOf_cons]
    omega
  -- What the rack holds, its instances use, and they live on.
  have hused : ∀ h ∈ r.holdings, 0 < uses racks live nobody h.number := by
    intro h hh
    obtain ⟨i, hi, hlibrary, _⟩ := c.used_of_held List.mem_cons_self hh
    have := usersOf_pos_iff.mpr ⟨i, hi, hlibrary⟩
    rw [uses]
    omega
  obtain ⟨hleft, hnext, hadds⟩ := Machine.unshareAll hlinker hused
  unfold Rack.discard
  rw [(c.sound r List.mem_cons_self).unloadUnused m]
  refine ⟨⟨hleft, (List.nodup_cons.mp c.racks_apart).2, c.live_apart,
    (List.pairwise_cons.mp c.disjoint).2, fun q hq => c.sound q (List.mem_cons_of_mem r hq),
    ?_, ?_, ?_⟩, hadds⟩
  · intro q hq
    dsimp only
    rw [hnext]
    exact c.racks_known q (List.mem_cons_of_mem r hq)
  · intro i hi
    dsimp only
    rw [hnext]
    exact c.live_known i hi
  · intro q hq h hh
    obtain ⟨specimen, hopened⟩ := c.opened_at q (List.mem_cons_of_mem r hq) h hh
    exact ⟨specimen, hadds.mem hopened⟩

end AudioHost
