import AudioHost.Proofs.Rack.Holdings

/-!
Who has custody of open libraries. A library is used by the racks that hold it, by the instances
that were made from it, and while an instance is being made, by a guest. No two racks hold one
library, and only the instances of a rack use what it holds.
-/

namespace AudioHost

/-- Everything that happened so far on a machine. -/
def Machine.journal (m : Machine) : Journal := m.linker.journal

/-- How many holdings of some racks are of a library. -/
def holdersOf (racks : List Rack) (n : Nat) : Nat :=
  (racks.flatMap Rack.holdings).countP fun h => h.number == n

/-- How many racks, instances and guests use a library. -/
def uses (racks : List Rack) (live : List Instance) (guests : Nat → Nat) (n : Nat) : Nat :=
  holdersOf racks n + usersOf live n + guests n

/-- The racks, the instances that live and the open libraries of a machine agree. -/
structure Custody (m : Machine) (racks : List Rack) (live : List Instance)
    (reserved guests : Nat → Nat) : Prop where
  linker : m.linker.Sound (uses racks live guests)
  racks_apart : (racks.map Rack.number).Nodup
  live_apart : (live.map Instance.number).Nodup
  disjoint : racks.Pairwise fun r q =>
    ∀ h ∈ r.holdings, ∀ k ∈ q.holdings, h.number ≠ k.number
  sound : ∀ r ∈ racks, r.Sound live reserved
  racks_known : ∀ r ∈ racks, r.number < m.next
  live_known : ∀ i ∈ live, i.number < m.next ∧ i.rack < m.next
  opened_at : ∀ r ∈ racks, ∀ h ∈ r.holdings, ∃ specimen,
    .opened h.number h.path specimen ∈ m.journal

variable {m m' : Machine} {r r' : Rack} {racks racks' : List Rack} {live live' : List Instance}
variable {reserved guests : Nat → Nat} {h : Holding} {p : Path} {i : Instance} {n : Nat}

open Journal

theorem custody_start (files : FileTree) (sources : List (Path × LibrarySource))
    (elsewhere : LibrarySource) :
    Custody (.start files (.start sources elsewhere)) [] [] nobody nobody where
  linker := Linker.sound_start sources elsewhere
  racks_apart := .nil
  live_apart := .nil
  disjoint := .nil
  sound := by simp
  racks_known := by simp
  live_known := by simp
  opened_at := by simp

/-! ## Counting holdings -/

theorem holdersOf_cons (r : Rack) (racks : List Rack) (n : Nat) :
    holdersOf (r :: racks) n =
      (r.holdings.countP fun h => h.number == n) + holdersOf racks n := by
  simp only [holdersOf, List.flatMap_cons, List.countP_append]

theorem holdersOf_pos_iff :
    0 < holdersOf racks n ↔ ∃ r ∈ racks, ∃ h ∈ r.holdings, h.number = n := by
  simp only [holdersOf, List.countP_pos_iff, List.mem_flatMap, beq_iff_eq]
  constructor
  · rintro ⟨h, ⟨r, hr, hh⟩, hnumber⟩
    exact ⟨r, hr, h, hh, hnumber⟩
  · rintro ⟨r, hr, h, hh, hnumber⟩
    exact ⟨h, ⟨r, hr, hh⟩, hnumber⟩

theorem uses_pos (hr : r ∈ racks) (hh : h ∈ r.holdings) (live : List Instance)
    (guests : Nat → Nat) : 0 < uses racks live guests h.number := by
  have := holdersOf_pos_iff.mpr ⟨r, hr, h, hh, rfl⟩
  rw [uses]
  omega

theorem uses_library_pos (racks : List Rack) (live : List Instance) (guests : Nat → Nat)
    (i : Instance) : 0 < uses racks (i :: live) guests i.library := by
  rw [uses, usersOf_cons, just_self]
  omega

theorem holdersOf_eq_zero_iff :
    holdersOf racks n = 0 ↔ ∀ r ∈ racks, ∀ h ∈ r.holdings, h.number ≠ n := by
  have hpos := @holdersOf_pos_iff racks n
  constructor
  · intro hzero r hr h hh hnumber
    have := hpos.mpr ⟨r, hr, h, hh, hnumber⟩
    omega
  · intro hnone
    refine Nat.eq_zero_of_not_pos fun hsome => ?_
    obtain ⟨r, hr, h, hh, hnumber⟩ := hpos.mp hsome
    exact hnone r hr h hh hnumber

theorem holdersOf_perm (hperm : racks.Perm racks') (n : Nat) :
    holdersOf racks n = holdersOf racks' n :=
  (hperm.flatMap_right _).countP_eq _

theorem usersOf_perm (hperm : live.Perm live') (n : Nat) : usersOf live n = usersOf live' n :=
  hperm.countP_eq _

namespace Custody

/-- The order of the racks and of the instances does not matter. -/
theorem perm (c : Custody m racks live reserved guests) (hracks : racks.Perm racks')
    (hlive : live.Perm live') : Custody m racks' live' reserved guests where
  linker := by
    refine c.linker.congr fun n => ?_
    rw [uses, uses, holdersOf_perm hracks, usersOf_perm hlive]
  racks_apart := (hracks.map _).nodup_iff.mp c.racks_apart
  live_apart := (hlive.map _).nodup_iff.mp c.live_apart
  disjoint := by
    refine hracks.pairwise c.disjoint fun hdisjoint h hh k hk => ?_
    exact (hdisjoint k hk h hh).symm
  sound := fun r hr => (c.sound r (hracks.mem_iff.mpr hr)).perm hlive
  racks_known := fun r hr => c.racks_known r (hracks.mem_iff.mpr hr)
  live_known := fun i hi => c.live_known i (hlive.mem_iff.mpr hi)
  opened_at := fun r hr => c.opened_at r (hracks.mem_iff.mpr hr)

/-! ## Who uses a library -/

/-- Without reservations, an instance of a rack uses each library that the rack holds. -/
theorem used_of_held (c : Custody m racks live nobody guests) (hr : r ∈ racks)
    (hh : h ∈ r.holdings) : ∃ i ∈ live, i.library = h.number ∧ i.rack = r.number := by
  have hcounted := (c.sound r hr).counted h hh
  have hbusy := (c.sound r hr).busy h hh
  rw [nobody] at hcounted
  obtain ⟨i, hi, hlibrary⟩ := usersOf_pos_iff.mp (by omega : 0 < usersOf live h.number)
  exact ⟨i, hi, hlibrary, (c.sound r hr).mine h hh i hi hlibrary⟩

/-- A rack holds the library of each of its instances. -/
theorem held_of_used (c : Custody m racks live reserved guests) (hr : r ∈ racks) (hi : i ∈ live)
    (hrack : i.rack = r.number) : ∃ h ∈ r.holdings, h.number = i.library := by
  obtain ⟨_, _, h, hh, hnumber, _⟩ := (c.sound r hr).lookup_tracked c.live_apart hi hrack
  exact ⟨h, hh, hnumber⟩

/-- A library is open just while an instance uses it. -/
theorem stillOpen_iff (c : Custody m racks live nobody nobody) :
    StillOpen m.journal n ↔ ∃ i ∈ live, i.library = n := by
  refine (c.linker.stillOpen_iff n).trans ?_
  rw [uses, nobody, Nat.add_zero]
  constructor
  · intro hpos
    -- A library that only racks use cannot be: what a rack holds, one of its instances uses.
    rcases Nat.eq_zero_or_pos (usersOf live n) with hzero | husers
    · obtain ⟨r, hr, h, hh, rfl⟩ := holdersOf_pos_iff.mp (by omega : 0 < holdersOf racks n)
      obtain ⟨i, hi, hlibrary, _⟩ := c.used_of_held hr hh
      exact ⟨i, hi, hlibrary⟩
    · exact usersOf_pos_iff.mp husers
  · intro hsome
    have := usersOf_pos_iff.mpr hsome
    omega

/-- The instances of one library are of one rack, if one of them is of a rack that is there. -/
theorem same_rack (c : Custody m racks live reserved guests) (hr : r ∈ racks) (hi : i ∈ live)
    (hrack : i.rack = r.number) {j : Instance} (hj : j ∈ live) (hlibrary : j.library = i.library) :
    j.rack = r.number := by
  obtain ⟨h, hh, hnumber⟩ := c.held_of_used hr hi hrack
  exact (c.sound r hr).mine h hh j hj (hlibrary.trans hnumber.symm)

/-- Libraries of different racks are different. -/
theorem number_ne (c : Custody m (r :: racks) live reserved guests) (hh : h ∈ r.holdings)
    {q : Rack} (hq : q ∈ racks) {k : Holding} (hk : k ∈ q.holdings) : k.number ≠ h.number :=
  ((List.pairwise_cons.mp c.disjoint).1 q hq h hh k hk).symm

theorem rack_ne (c : Custody m (r :: racks) live reserved guests) {q : Rack} (hq : q ∈ racks) :
    r.number ≠ q.number := by
  intro heq
  exact (List.nodup_cons.mp c.racks_apart).1 (heq ▸ List.mem_map.mpr ⟨q, hq, rfl⟩)

/-! ## Changes -/

theorem withMachine (c : Custody m racks live reserved guests) {guests' : Nat → Nat}
    (hlinker : m'.linker.Sound (uses racks live guests')) (hnext : m.next ≤ m'.next)
    {ok : Event → Prop} (hadds : Adds ok m.journal m'.journal) :
    Custody m' racks live reserved guests' where
  linker := hlinker
  racks_apart := c.racks_apart
  live_apart := c.live_apart
  disjoint := c.disjoint
  sound := c.sound
  racks_known := fun r hr => Nat.lt_of_lt_of_le (c.racks_known r hr) hnext
  live_known := fun i hi => ⟨Nat.lt_of_lt_of_le (c.live_known i hi).1 hnext,
    Nat.lt_of_lt_of_le (c.live_known i hi).2 hnext⟩
  opened_at := by
    intro r hr h hh
    obtain ⟨specimen, hopened⟩ := c.opened_at r hr h hh
    exact ⟨specimen, hadds.mem hopened⟩

/-- A rack and the instances change, but the rack opens no library. -/
theorem change (c : Custody m (r :: racks) live reserved guests) {reserved' guests' : Nat → Nat}
    (hnumber : r'.number = r.number)
    (hfrom : ∀ k ∈ r'.holdings, ∃ l ∈ r.holdings, k.path = l.path ∧ k.number = l.number)
    (hsound : ∀ q ∈ r' :: racks, q.Sound live' reserved')
    (hapart : (live'.map Instance.number).Nodup)
    (hknown : ∀ i ∈ live', i.number < m'.next ∧ i.rack < m'.next)
    (hlinker : m'.linker.Sound (uses (r' :: racks) live' guests')) (hnext : m.next ≤ m'.next)
    {ok : Event → Prop} (hadds : Adds ok m.journal m'.journal) :
    Custody m' (r' :: racks) live' reserved' guests' where
  linker := hlinker
  racks_apart := by
    rw [List.map_cons, hnumber]
    exact c.racks_apart
  live_apart := hapart
  disjoint := by
    obtain ⟨hfirst, hrest⟩ := List.pairwise_cons.mp c.disjoint
    refine List.pairwise_cons.mpr ⟨?_, hrest⟩
    intro q hq k hk l hl
    -- Each of its holdings is of a library that it held before.
    obtain ⟨h, hh, _, heq⟩ := hfrom k hk
    rw [heq]
    exact hfirst q hq h hh l hl
  sound := hsound
  racks_known := by
    intro q hq
    rcases List.mem_cons.mp hq with rfl | hq
    · rw [hnumber]
      exact Nat.lt_of_lt_of_le (c.racks_known r List.mem_cons_self) hnext
    · exact Nat.lt_of_lt_of_le (c.racks_known q (List.mem_cons_of_mem r hq)) hnext
  live_known := hknown
  opened_at := by
    intro q hq k hk
    rcases List.mem_cons.mp hq with rfl | hq
    · obtain ⟨l, hl, hpath, hnumber⟩ := hfrom k hk
      obtain ⟨specimen, hopened⟩ := c.opened_at r List.mem_cons_self l hl
      exact ⟨specimen, hadds.mem (by rw [hpath, hnumber]; exact hopened)⟩
    · obtain ⟨specimen, hopened⟩ := c.opened_at q (List.mem_cons_of_mem r hq) k hk
      exact ⟨specimen, hadds.mem hopened⟩

end Custody

end AudioHost
