import AudioHost.Proofs.Native.Users
import AudioHost.Rack.Basic
import Mathlib.Data.List.Nodup

/-!
The books of a rack. A rack counts, for each library that it holds, the instances that use it and
the ones that are being made; and it tracks every instance with a path of its library.
-/

namespace AudioHost

/-- How many of some instances use a library. -/
def usersOf (live : List Instance) (n : Nat) : Nat := live.countP fun i => i.library == n

theorem usersOf_cons (i : Instance) (live : List Instance) (n : Nat) :
    usersOf (i :: live) n = usersOf live n + just i.library n := by
  simp only [usersOf, List.countP_cons, if_beq_eq_just]

theorem usersOf_pos_iff {live : List Instance} {n : Nat} :
    0 < usersOf live n ↔ ∃ i ∈ live, i.library = n := by
  simp [usersOf, List.countP_pos_iff]

theorem usersOf_eq_zero_iff {live : List Instance} {n : Nat} :
    usersOf live n = 0 ↔ ∀ i ∈ live, i.library ≠ n := by
  simp [usersOf, List.countP_eq_zero]

theorem usersOf_map (f : Instance → Instance) (hf : ∀ i, (f i).library = i.library)
    (live : List Instance) (n : Nat) : usersOf (live.map f) n = usersOf live n := by
  rw [usersOf, usersOf, List.countP_map]
  refine List.countP_congr fun i _ => ?_
  simp only [Function.comp_apply, hf]

namespace Rack

/-! ## The invariant -/

/-- Holdings of different paths and different libraries. -/
def Apart (hs : List Holding) : Prop :=
  hs.Pairwise fun h k => h.path.same k.path = false ∧ h.number ≠ k.number

/-- The books of a rack agree with the instances that live. An instance that is being made has a
reservation in place of an entry. -/
structure Sound (r : Rack) (live : List Instance) (reserved : Nat → Nat) : Prop where
  apart : Apart r.holdings
  tracks : ∃ own : List (Instance × Path),
    (own.map Prod.fst).Perm (live.filter fun i => i.rack == r.number) ∧
      r.tracked = own.map (fun x => (x.1.number, x.2)) ∧
      ∀ x ∈ own, ∃ h ∈ r.holdings, h.number = x.1.library ∧ h.path.same x.2 = true
  counted : ∀ h ∈ r.holdings, h.live = usersOf live h.number + reserved h.number
  busy : ∀ h ∈ r.holdings, 0 < h.live
  mine : ∀ h ∈ r.holdings, ∀ i ∈ live, i.library = h.number → i.rack = r.number

variable {r : Rack} {live live' : List Instance} {reserved reserved' : Nat → Nat}
variable {h k : Holding} {p : Path} {i : Instance} {n : Nat}

theorem sound_empty (kind : PluginKind) (searchPath : List Path)
    (hnew : ∀ i ∈ live, i.rack ≠ n) : (empty n kind searchPath).Sound live reserved where
  apart := .nil
  tracks := by
    refine ⟨[], ?_, rfl, by simp⟩
    have hnone : live.filter (fun i => i.rack == n) = [] := by simpa using hnew
    simp only [empty, hnone]
    exact .nil
  counted := by simp [empty]
  busy := by simp [empty]
  mine := by simp [empty]

/-! ## Holdings -/

/-- No two holdings have one path or one library. -/
theorem Apart.eq_of_mem {hs : List Holding} (ha : Apart hs) (hh : h ∈ hs) (hk : k ∈ hs)
    (heq : h.path.same k.path = true ∨ h.number = k.number) : h = k := by
  refine List.Pairwise.forall_of_forall_of_flip
    (R := fun h k => h.path.same k.path = true ∨ h.number = k.number → h = k)
    (fun _ _ _ => rfl) (ha.imp ?_) (ha.imp ?_) hh hk heq
  · rintro h k ⟨hpath, hnumber⟩ (hsame | hsame)
    · rw [hpath] at hsame
      cases hsame
    · exact absurd hsame hnumber
  · rintro h k ⟨hpath, hnumber⟩ (hsame | hsame)
    · rw [Path.same_comm, hpath] at hsame
      cases hsame
    · exact absurd hsame.symm hnumber

theorem Apart.eq_of_same {hs : List Holding} (ha : Apart hs) (hh : h ∈ hs) (hk : k ∈ hs)
    (hp : h.path.same p = true) (hkp : k.path.same p = true) : h = k := by
  refine ha.eq_of_mem hh hk (Or.inl ?_)
  rw [Path.same_congr hp, Path.same_comm]
  exact hkp

theorem mem_of_holding? (hh : r.holding? p = some h) :
    h ∈ r.holdings ∧ h.path.same p = true := by
  unfold holding? at hh
  have hsame := List.find?_some hh
  exact ⟨List.mem_of_find?_eq_some hh, hsame⟩

theorem Apart.holding?_eq (ha : Apart r.holdings) (hh : h ∈ r.holdings)
    (hp : h.path.same p = true) : r.holding? p = some h := by
  have hsome : (r.holding? p).isSome := List.find?_isSome.mpr ⟨h, hh, hp⟩
  obtain ⟨k, hk⟩ := Option.isSome_iff_exists.mp hsome
  obtain ⟨hmem, hsame⟩ := mem_of_holding? hk
  rw [hk, ha.eq_of_same hh hmem hp hsame]

theorem Apart.mem_removeHolding (ha : Apart r.holdings) (hh : h ∈ r.holdings)
    (hp : h.path.same p = true) (hk : k ∈ (r.removeHolding p).holdings) :
    k ∈ r.holdings ∧ k.number ≠ h.number := by
  obtain ⟨hk, hnot⟩ := List.mem_filter.mp hk
  refine ⟨hk, ?_⟩
  intro hnumber
  rw [ha.eq_of_mem hk hh (Or.inr hnumber), hp] at hnot
  cases hnot

/-- One holding is removed, and all others stay. -/
theorem Apart.removeHolding_eq (ha : Apart r.holdings) (hh : h ∈ r.holdings)
    (hp : h.path.same p = true) :
    ∃ front back, r.holdings = front ++ h :: back ∧
      (r.removeHolding p).holdings = front ++ back := by
  obtain ⟨front, back, heq⟩ := List.append_of_mem hh
  refine ⟨front, back, heq, ?_⟩
  -- No other holding is for the path, so the filter takes out just this one.
  have hdiffers : ∀ k ∈ r.holdings, k ∈ front ∨ k ∈ back → k.path.same p = false := by
    intro k hk hwhere
    refine Bool.eq_false_iff.mpr fun hkp => ?_
    obtain rfl := ha.eq_of_same hk hh hkp hp
    rw [heq] at ha
    obtain ⟨_, hback, hfront⟩ := List.pairwise_append.mp ha
    rcases hwhere with hin | hin
    · exact (hfront k hin k List.mem_cons_self).2 rfl
    · exact ((List.pairwise_cons.mp hback).1 k hin).2 rfl
  rw [heq] at hdiffers
  rw [removeHolding, heq]
  dsimp only
  rw [List.filter_append, List.filter_cons_of_neg (by simp [hp]),
    List.filter_eq_self.mpr (fun k hk => by simp [hdiffers k (by simp [hk]) (Or.inl hk)]),
    List.filter_eq_self.mpr (fun k hk => by simp [hdiffers k (by simp [hk]) (Or.inr hk)])]

theorem Apart.countP_removeHolding (ha : Apart r.holdings) (hh : h ∈ r.holdings)
    (hp : h.path.same p = true) (n : Nat) : (r.holdings.countP fun k => k.number == n) =
      ((r.removeHolding p).holdings.countP fun k => k.number == n) + just h.number n := by
  obtain ⟨front, back, heq, hremoved⟩ := ha.removeHolding_eq hh hp
  rw [hremoved, heq, List.countP_append, List.countP_append, List.countP_cons, if_beq_eq_just,
    Nat.add_assoc]

/-- Every tracked instance uses what is held for its path. -/
theorem Sound.tracked_same_iff (hr : r.Sound live reserved) {x : Instance × Path}
    (hx : ∃ k ∈ r.holdings, k.number = x.1.library ∧ k.path.same x.2 = true)
    (hh : h ∈ r.holdings) : h.path.same x.2 = true ↔ x.1.library = h.number := by
  obtain ⟨k, hk, hnumber, hsame⟩ := hx
  constructor
  · intro hp
    rw [hr.apart.eq_of_same hh hk hp hsame, hnumber]
  · intro hlibrary
    rw [hr.apart.eq_of_mem hh hk (Or.inr (hlibrary.symm.trans hnumber.symm))]
    exact hsame

/-- As many tracked instances have the path of a library that is held as live instances use it. -/
theorem Sound.countP_tracked (hr : r.Sound live reserved) (hh : h ∈ r.holdings) :
    (r.tracked.countP fun e => h.path.same e.2) = usersOf live h.number := by
  obtain ⟨own, hperm, htracked, hown⟩ := hr.tracks
  calc r.tracked.countP (fun e => h.path.same e.2)
      = own.countP (fun x => x.1.library == h.number) := by
        rw [htracked, List.countP_map]
        refine List.countP_congr fun x hx => ?_
        simpa using hr.tracked_same_iff (hown x hx) hh
    _ = (own.map Prod.fst).countP (fun i => i.library == h.number) := by
        rw [List.countP_map]
        rfl
    _ = (live.filter fun i => i.rack == r.number).countP (fun i => i.library == h.number) :=
        hperm.countP_eq _
    _ = usersOf live h.number := by
        rw [List.countP_filter]
        refine List.countP_congr fun i hi => ?_
        simp only [Bool.and_eq_true, beq_iff_eq]
        exact ⟨fun hboth => hboth.1, fun hlibrary => ⟨hlibrary, hr.mine h hh i hi hlibrary⟩⟩

/-- Another instance is tracked with the path of a library that is held if another one uses it. -/
theorem Sound.other_tracked_iff (hr : r.Sound live reserved) (hh : h ∈ r.holdings) (n : Nat) :
    (∃ e ∈ r.tracked, e.1 ≠ n ∧ h.path.same e.2 = true) ↔
      ∃ i ∈ live, i.number ≠ n ∧ i.library = h.number := by
  -- Entries and live instances are matched by the list that pairs them.
  obtain ⟨own, hperm, htracked, hown⟩ := hr.tracks
  rw [htracked]
  constructor
  · rintro ⟨e, he, hne, hsame⟩
    obtain ⟨x, hx, rfl⟩ := List.mem_map.mp he
    have hlive := hperm.mem_iff.mp (List.mem_map.mpr ⟨x, hx, rfl⟩)
    exact ⟨x.1, (List.mem_filter.mp hlive).1, hne, (hr.tracked_same_iff (hown x hx) hh).mp hsame⟩
  · rintro ⟨i, hi, hne, hlibrary⟩
    have hrack := hr.mine h hh i hi hlibrary
    obtain ⟨x, hx, rfl⟩ := List.mem_map.mp
      (hperm.mem_iff.mpr (List.mem_filter.mpr ⟨hi, beq_iff_eq.mpr hrack⟩))
    exact ⟨_, List.mem_map.mpr ⟨x, hx, rfl⟩, hne,
      (hr.tracked_same_iff (hown x hx) hh).mpr hlibrary⟩

/-- The paths that are held are the ones of the tracked instances. -/
theorem Sound.holding?_isSome_iff (hr : r.Sound live nobody) :
    (r.holding? p).isSome ↔ ∃ e ∈ r.tracked, e.2.same p = true := by
  constructor
  · intro hsome
    obtain ⟨h, hheld⟩ := Option.isSome_iff_exists.mp hsome
    obtain ⟨hh, hp⟩ := mem_of_holding? hheld
    have hbusy := hr.busy h hh
    rw [hr.counted h hh, nobody, Nat.add_zero, ← hr.countP_tracked hh] at hbusy
    obtain ⟨e, he, hsame⟩ := List.countP_pos_iff.mp hbusy
    refine ⟨e, he, ?_⟩
    rw [Path.same_comm, ← Path.same_congr hp]
    exact hsame
  · rintro ⟨e, he, hsame⟩
    obtain ⟨own, _, htracked, hown⟩ := hr.tracks
    rw [htracked] at he
    obtain ⟨x, hx, rfl⟩ := List.mem_map.mp he
    obtain ⟨h, hh, _, hpath⟩ := hown x hx
    refine List.find?_isSome.mpr ⟨h, hh, ?_⟩
    rw [Path.same_comm, ← Path.same_congr hsame, Path.same_comm]
    exact hpath

/-- Just the instances of a rack are tracked. -/
theorem Sound.tracked_perm (hr : r.Sound live reserved) : (r.tracked.map Prod.fst).Perm
    ((live.filter fun i => i.rack == r.number).map Instance.number) := by
  obtain ⟨own, hperm, htracked, _⟩ := hr.tracks
  have hmapped := hperm.map Instance.number
  rw [List.map_map] at hmapped
  rw [htracked, List.map_map]
  exact hmapped

/-! ## Reserving and giving back -/

theorem mem_updateHolding (count : Nat → Nat)
    (hk : k ∈ (r.updateHolding p fun k => { k with live := count k.live }).holdings) :
    ∃ l ∈ r.holdings, k.path = l.path ∧ k.number = l.number := by
  obtain ⟨l, hl, rfl⟩ := List.mem_map.mp hk
  refine ⟨l, hl, ?_⟩
  split <;> exact ⟨rfl, rfl⟩

theorem countP_updateHolding (r : Rack) (p : Path) (count : Nat → Nat) (n : Nat) :
    ((r.updateHolding p fun k => { k with live := count k.live }).holdings.countP
      fun k => k.number == n) = r.holdings.countP fun k => k.number == n := by
  rw [Rack.updateHolding, List.countP_map]
  refine List.countP_congr fun k _ => ?_
  simp only [Function.comp_apply]
  split <;> rfl

/-- The count of what is held for a path changes. -/
theorem Sound.updateHolding (hr : r.Sound live reserved) (hh : h ∈ r.holdings)
    (hp : h.path.same p = true) (count : Nat → Nat)
    (hcount : count h.live = usersOf live h.number + reserved' h.number)
    (hpos : 0 < count h.live) (hother : ∀ n, n ≠ h.number → reserved' n = reserved n) :
    (r.updateHolding p fun k => { k with live := count k.live }).Sound live reserved' := by
  -- Only one holding is for the path: it has the new count, and the others have their old ones.
  have hmem : ∀ k ∈ (r.updateHolding p fun k => { k with live := count k.live }).holdings,
      ∃ l ∈ r.holdings, k.path = l.path ∧ k.number = l.number ∧
        (l = h ∧ k.live = count h.live ∨ l.number ≠ h.number ∧ k.live = l.live) := by
    intro k hk
    obtain ⟨l, hl, rfl⟩ := List.mem_map.mp hk
    refine ⟨l, hl, ?_⟩
    split
    · next hsame =>
      have heq := hr.apart.eq_of_same hl hh hsame hp
      exact ⟨rfl, rfl, Or.inl ⟨heq, by rw [heq]⟩⟩
    · next hnot =>
      refine ⟨rfl, rfl, Or.inr ⟨?_, rfl⟩⟩
      intro hnumber
      rw [hr.apart.eq_of_mem hl hh (Or.inr hnumber)] at hnot
      exact hnot hp
  refine ⟨?_, ?_, ?_, ?_, ?_⟩
  · refine List.pairwise_map.mpr (hr.apart.imp ?_)
    intro l k hboth
    split <;> split <;> exact hboth
  · obtain ⟨own, hperm, htracked, hown⟩ := hr.tracks
    refine ⟨own, hperm, htracked, ?_⟩
    intro x hx
    obtain ⟨l, hl, hnumber, hsame⟩ := hown x hx
    refine ⟨_, List.mem_map.mpr ⟨l, hl, rfl⟩, ?_⟩
    split <;> exact ⟨hnumber, hsame⟩
  · intro k hk
    obtain ⟨l, hl, _, hnumber, ⟨rfl, hlive⟩ | ⟨hne, hlive⟩⟩ := hmem k hk
    · rw [hlive, hnumber, hcount]
    · rw [hlive, hnumber, hother _ hne, hr.counted l hl]
  · intro k hk
    obtain ⟨l, hl, _, _, ⟨_, hlive⟩ | ⟨_, hlive⟩⟩ := hmem k hk
    · rw [hlive]
      exact hpos
    · rw [hlive]
      exact hr.busy l hl
  · intro k hk i hi hlibrary
    obtain ⟨l, hl, _, hnumber, _⟩ := hmem k hk
    exact hr.mine l hl i hi (hlibrary.trans hnumber)

/-- A library that is held is reserved for an instance that is to be made. -/
theorem Sound.reserve (hr : r.Sound live nobody) (hh : h ∈ r.holdings)
    (hp : h.path.same p = true) :
    (r.updateHolding p fun k => { k with live := k.live + 1 }).Sound live (just h.number) := by
  refine hr.updateHolding hh hp (fun live => live + 1) ?_ (Nat.succ_pos _) ?_
  · rw [hr.counted h hh, just_self, nobody]
  · intro n hn
    rw [just_of_ne hn, nobody]

/-- A library is opened for an instance that is to be made. -/
theorem Sound.hold (hr : r.Sound live nobody) (hp : r.holding? p = none)
    (hfresh : ∀ k ∈ r.holdings, k.number ≠ n) (hunused : usersOf live n = 0) (e : Exports) :
    ({ r with holdings := r.holdings ++ [⟨p, n, e, 1⟩] } : Rack).Sound live (just n) where
  apart := by
    rw [Apart, List.pairwise_append]
    refine ⟨hr.apart, List.pairwise_singleton _ _, ?_⟩
    intro k hk l hl
    obtain rfl : l = ⟨p, n, e, 1⟩ := List.mem_singleton.mp hl
    have hnone := List.find?_eq_none.mp hp k hk
    exact ⟨by simpa using hnone, hfresh k hk⟩
  tracks := by
    obtain ⟨own, hperm, htracked, hown⟩ := hr.tracks
    refine ⟨own, hperm, htracked, ?_⟩
    intro x hx
    obtain ⟨k, hk, hboth⟩ := hown x hx
    exact ⟨k, List.mem_append_left _ hk, hboth⟩
  counted := by
    intro k hk
    rcases List.mem_append.mp hk with hk | hk
    · rw [hr.counted k hk, just_of_ne (hfresh k hk), nobody]
    · rw [List.mem_singleton.mp hk, hunused, just_self]
  busy := by
    intro k hk
    rcases List.mem_append.mp hk with hk | hk
    · exact hr.busy k hk
    · rw [List.mem_singleton.mp hk]
      exact Nat.one_pos
  mine := by
    intro k hk i hi hlibrary
    rcases List.mem_append.mp hk with hk | hk
    · exact hr.mine k hk i hi hlibrary
    · rw [List.mem_singleton.mp hk] at hlibrary
      exact absurd hlibrary (usersOf_eq_zero_iff.mp hunused i hi)

/-- A library without instances is given up. -/
theorem Sound.removeHolding (hr : r.Sound live reserved) (hh : h ∈ r.holdings)
    (hp : h.path.same p = true) (hunused : usersOf live h.number = 0)
    (hother : ∀ n, n ≠ h.number → reserved' n = reserved n) :
    (r.removeHolding p).Sound live reserved' := by
  have hmem : ∀ k ∈ (r.removeHolding p).holdings, k ∈ r.holdings ∧ k.number ≠ h.number :=
    fun k => hr.apart.mem_removeHolding hh hp
  refine ⟨hr.apart.filter _, ?_, ?_, ?_, ?_⟩
  · obtain ⟨own, hperm, htracked, hown⟩ := hr.tracks
    refine ⟨own, hperm, htracked, ?_⟩
    intro x hx
    obtain ⟨k, hk, hnumber, hsame⟩ := hown x hx
    refine ⟨k, List.mem_filter.mpr ⟨hk, ?_⟩, hnumber, hsame⟩
    have hlive : x.1 ∈ live := by
      have := hperm.mem_iff.mp (List.mem_map.mpr ⟨x, hx, rfl⟩)
      exact (List.mem_filter.mp this).1
    -- Whoever is tracked uses another library, so its holding stays.
    have hne := usersOf_eq_zero_iff.mp hunused x.1 hlive
    have hpath : ¬ k.path.same p = true := by
      intro hkp
      rw [hr.apart.eq_of_same hk hh hkp hp] at hnumber
      exact hne hnumber.symm
    simpa using hpath
  · intro k hk
    obtain ⟨hk, hne⟩ := hmem k hk
    rw [hr.counted k hk, hother _ hne]
  · intro k hk
    exact hr.busy k (hmem k hk).1
  · intro k hk
    exact hr.mine k (hmem k hk).1

theorem letGo_number (r : Rack) (p : Path) (m : Machine) : (r.letGo p m).1.number = r.number := by
  unfold letGo
  split
  · rfl
  · split <;> rfl

/-- The instance that was made, or that could not be made, gives its reservation back. -/
theorem Sound.letGo (hr : r.Sound live (just h.number)) (hh : h ∈ r.holdings)
    (hp : h.path.same p = true) (m : Machine) : (r.letGo p m).1.Sound live nobody := by
  have hcounted := hr.counted h hh
  rw [just_self] at hcounted
  have hother : ∀ n, n ≠ h.number → nobody n = just h.number n := by
    intro n hn
    rw [just_of_ne hn, nobody]
  unfold Rack.letGo
  rw [hr.apart.holding?_eq hh hp]
  dsimp only
  split
  · refine hr.updateHolding hh hp (fun live => live - 1) ?_ ?_ hother
    · rw [hcounted, nobody, Nat.add_sub_cancel, Nat.add_zero]
    · omega
  · exact hr.removeHolding hh hp (by omega) hother

/-! ## Entries -/

/-- An instance that was made is tracked. -/
theorem Sound.track (hr : r.Sound live (just i.library)) (hrack : i.rack = r.number)
    (hheld : ∃ h ∈ r.holdings, h.number = i.library ∧ h.path.same p = true) :
    ({ r with tracked := r.tracked ++ [(i.number, p)] } : Rack).Sound (i :: live) nobody where
  apart := hr.apart
  tracks := by
    obtain ⟨own, hperm, htracked, hown⟩ := hr.tracks
    refine ⟨own ++ [(i, p)], ?_, ?_, ?_⟩
    · rw [List.map_append, List.filter_cons_of_pos (by simpa using hrack)]
      exact List.perm_append_comm.trans (hperm.cons i)
    · rw [htracked, List.map_append]
      rfl
    · intro x hx
      rcases List.mem_append.mp hx with hx | hx
      · exact hown x hx
      · rw [List.mem_singleton.mp hx]
        exact hheld
  counted := by
    intro h hh
    rw [hr.counted h hh, usersOf_cons]
    rfl
  busy := hr.busy
  mine := by
    intro h hh j hj hlibrary
    rcases List.mem_cons.mp hj with rfl | hj
    · exact hrack
    · exact hr.mine h hh j hj hlibrary

/-- The entry of an instance that lives is found, with a path of its library. -/
theorem Sound.lookup_tracked (hr : r.Sound live reserved)
    (hapart : (live.map Instance.number).Nodup) (hi : i ∈ live) (hrack : i.rack = r.number) :
    ∃ p, r.tracked.lookup i.number = some p ∧
      ∃ h ∈ r.holdings, h.number = i.library ∧ h.path.same p = true := by
  obtain ⟨own, hperm, htracked, hown⟩ := hr.tracks
  have hmem : i ∈ own.map Prod.fst :=
    hperm.mem_iff.mpr (List.mem_filter.mpr ⟨hi, by simpa using hrack⟩)
  obtain ⟨⟨j, p⟩, hx, rfl⟩ := List.mem_map.mp hmem
  rcases hlookup : r.tracked.lookup j.number with _ | q
  · have hnone := List.lookup_eq_none_iff.mp hlookup
    have hentry : (j.number, p) ∈ r.tracked := by
      rw [htracked]
      exact List.mem_map.mpr ⟨(j, p), hx, rfl⟩
    have hdiffers := hnone _ hentry
    rw [bne_self_eq_false] at hdiffers
    cases hdiffers
  · refine ⟨q, rfl, ?_⟩
    obtain ⟨front, back, heq, _⟩ := List.lookup_eq_some_iff.mp hlookup
    have hentry : (j.number, q) ∈ r.tracked := by
      rw [heq]
      simp
    rw [htracked] at hentry
    obtain ⟨⟨k, q'⟩, hk, hpair⟩ := List.mem_map.mp hentry
    obtain ⟨hnumber, rfl⟩ := Prod.mk.inj hpair
    -- The entry that is found may be a later one, but the number tells whose it is.
    have hlive : k ∈ live := by
      have := hperm.mem_iff.mp (List.mem_map.mpr ⟨(k, q'), hk, rfl⟩)
      exact (List.mem_filter.mp this).1
    obtain rfl : k = j := List.inj_on_of_nodup_map hapart hlive hi hnumber
    exact hown _ hk

/-- An instance that has ended is not tracked any more, but its library is not yet let go. -/
theorem Sound.untrack (hr : r.Sound (i :: live) nobody)
    (hapart : ((i :: live).map Instance.number).Nodup) (hrack : i.rack = r.number) :
    ({ r with tracked := r.tracked.filter fun e => e.1 != i.number } : Rack).Sound live
      (just i.library) where
  apart := hr.apart
  tracks := by
    obtain ⟨own, hperm, htracked, hown⟩ := hr.tracks
    refine ⟨own.filter fun x => x.1.number != i.number, ?_, ?_, ?_⟩
    · -- Taking the entries of one number out of the pairs takes one instance out of the live ones.
      have hmap : (own.filter fun x => x.1.number != i.number).map Prod.fst =
          (own.map Prod.fst).filter fun j => j.number != i.number := by
        rw [List.filter_map]
        rfl
      have hleft : (live.filter fun j => j.rack == r.number).filter
          (fun j => j.number != i.number) = live.filter fun j => j.rack == r.number := by
        refine List.filter_eq_self.mpr fun j hj => ?_
        have hne := (List.nodup_cons.mp hapart).1
        simp only [bne_iff_ne]
        intro heq
        exact hne (heq ▸ List.mem_map.mpr ⟨j, (List.mem_filter.mp hj).1, rfl⟩)
      have hfiltered := hperm.filter fun j => j.number != i.number
      rw [List.filter_cons_of_pos (by simpa using hrack), List.filter_cons_of_neg (by simp),
        hleft] at hfiltered
      rw [hmap]
      exact hfiltered
    · rw [htracked, List.filter_map]
      rfl
    · intro x hx
      exact hown x (List.mem_filter.mp hx).1
  counted := by
    intro h hh
    rw [hr.counted h hh, usersOf_cons]
    rfl
  busy := hr.busy
  mine := by
    intro h hh j hj
    exact hr.mine h hh j (List.mem_cons_of_mem i hj)

/-! ## What concerns other racks -/

theorem Sound.reserved_congr (hr : r.Sound live reserved)
    (heq : ∀ h ∈ r.holdings, reserved' h.number = reserved h.number) : r.Sound live reserved' where
  apart := hr.apart
  tracks := hr.tracks
  counted := by
    intro h hh
    rw [hr.counted h hh, heq h hh]
  busy := hr.busy
  mine := hr.mine

/-- An instance of another rack is made. -/
theorem Sound.cons (hr : r.Sound live reserved) (hrack : i.rack ≠ r.number)
    (hlibrary : ∀ h ∈ r.holdings, h.number ≠ i.library) : r.Sound (i :: live) reserved where
  apart := hr.apart
  tracks := by
    rw [List.filter_cons_of_neg (by simpa using hrack)]
    exact hr.tracks
  counted := by
    intro h hh
    rw [hr.counted h hh, usersOf_cons, just_of_ne (hlibrary h hh), Nat.add_zero]
  busy := hr.busy
  mine := by
    intro h hh j hj heq
    rcases List.mem_cons.mp hj with rfl | hj
    · exact absurd heq.symm (hlibrary h hh)
    · exact hr.mine h hh j hj heq

/-- An instance of another rack ends. -/
theorem Sound.of_cons (hr : r.Sound (i :: live) reserved) (hrack : i.rack ≠ r.number) :
    r.Sound live reserved where
  apart := hr.apart
  tracks := by
    have htracks := hr.tracks
    rw [List.filter_cons_of_neg (by simpa using hrack)] at htracks
    exact htracks
  counted := by
    intro h hh
    have hne : h.number ≠ i.library := by
      intro heq
      exact hrack (hr.mine h hh i List.mem_cons_self heq.symm)
    rw [hr.counted h hh, usersOf_cons, just_of_ne hne, Nat.add_zero]
  busy := hr.busy
  mine := by
    intro h hh j hj
    exact hr.mine h hh j (List.mem_cons_of_mem i hj)

theorem Sound.perm (hr : r.Sound live reserved) (hperm : live.Perm live') :
    r.Sound live' reserved where
  apart := hr.apart
  tracks := by
    obtain ⟨own, hown, hrest⟩ := hr.tracks
    exact ⟨own, hown.trans (hperm.filter _), hrest⟩
  counted := by
    intro h hh
    rw [hr.counted h hh, usersOf, usersOf, hperm.countP_eq]
  busy := hr.busy
  mine := by
    intro h hh j hj
    exact hr.mine h hh j (hperm.mem_iff.mpr hj)

theorem Sound.map (hr : r.Sound live reserved) (f : Instance → Instance)
    (hf : ∀ i, (f i).number = i.number ∧ (f i).rack = i.rack ∧ (f i).library = i.library) :
    r.Sound (live.map f) reserved where
  apart := hr.apart
  tracks := by
    obtain ⟨own, hperm, htracked, hown⟩ := hr.tracks
    refine ⟨own.map fun x => (f x.1, x.2), ?_, ?_, ?_⟩
    · have hmapped := hperm.map f
      have hracks : ((fun i : Instance => i.rack == r.number) ∘ f) =
          fun i => i.rack == r.number := by
        funext i
        simp only [Function.comp_apply, (hf i).2.1]
      rw [List.map_map] at hmapped ⊢
      rw [List.filter_map, hracks]
      exact hmapped
    · rw [htracked, List.map_map]
      refine List.map_congr_left fun x _ => ?_
      simp only [Function.comp_apply, (hf x.1).1]
    · intro y hy
      obtain ⟨x, hx, rfl⟩ := List.mem_map.mp hy
      obtain ⟨h, hh, hnumber, hsame⟩ := hown x hx
      exact ⟨h, hh, hnumber.trans (hf x.1).2.2.symm, hsame⟩
  counted := by
    intro h hh
    rw [hr.counted h hh, usersOf_map f fun i => (hf i).2.2]
  busy := hr.busy
  mine := by
    intro h hh j hj hlibrary
    obtain ⟨i, hi, rfl⟩ := List.mem_map.mp hj
    rw [(hf i).2.1]
    exact hr.mine h hh i hi ((hf i).2.2.symm.trans hlibrary)

/-! ## Unused libraries -/

/-- Every library that is held has an instance or a reservation, so none is unused. -/
theorem Sound.unloadUnused (hr : r.Sound live reserved) (m : Machine) :
    r.unloadUnused m = (0, r, m) := by
  have hnone : r.holdings.filter (fun h => h.live = 0) = [] := by
    refine List.filter_eq_nil_iff.mpr fun h hh => ?_
    have := hr.busy h hh
    simp only [decide_eq_true_eq]
    omega
  have hall : r.holdings.filter (fun h => h.live ≠ 0) = r.holdings := by
    refine List.filter_eq_self.mpr fun h hh => ?_
    have := hr.busy h hh
    simp only [decide_eq_true_eq]
    omega
  simp only [Rack.unloadUnused, hnone, hall, closeAll, List.length_nil, List.foldl_nil]

end Rack

end AudioHost
