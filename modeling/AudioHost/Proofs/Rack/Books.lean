import AudioHost.Proofs.Rack.Lifetimes

/-!
The laws of the books of racks. In a bench that follows orders, each rack holds just the libraries
of the instances that it tracks, open once and counted right, and so it never has to put off closing
one, and it never finds one unused.
-/

namespace AudioHost

open Journal

variable {m : Machine} {r : Rack} {racks : List Rack} {live : List Instance} {i : Instance}
variable {n : Nat}

/-- No library is held twice. -/
theorem Custody.holdersOf_le_one (c : Custody m racks live nobody nobody) (n : Nat) :
    holdersOf racks n ≤ 1 := by
  -- Within a rack holdings differ, and between racks too.
  have hnodup : ((racks.flatMap Rack.holdings).map Holding.number).Nodup := by
    refine List.pairwise_map.mpr (List.pairwise_flatMap.mpr ⟨fun r hr => ?_, c.disjoint⟩)
    exact (c.sound r hr).apart.imp And.right
  have hone := List.nodup_iff_count_le_one.mp hnodup n
  rw [List.count, List.countP_map] at hone
  exact hone

/-- The libraries that are held are the ones of instances whose racks are there. -/
theorem Custody.holdersOf_pos_iff_used (c : Custody m racks live nobody nobody) :
    0 < holdersOf racks n ↔ ∃ i ∈ live, i.library = n ∧ ∃ r ∈ racks, r.number = i.rack := by
  rw [holdersOf_pos_iff]
  constructor
  · rintro ⟨r, hr, h, hh, rfl⟩
    obtain ⟨i, hi, hlibrary, hrack⟩ := c.used_of_held hr hh
    exact ⟨i, hi, hlibrary, r, hr, hrack.symm⟩
  · rintro ⟨i, hi, rfl, r, hr, hrack⟩
    obtain ⟨h, hh, hnumber⟩ := c.held_of_used hr hi hrack.symm
    exact ⟨r, hr, h, hh, hnumber⟩

namespace Bench

variable {b : Bench} {name : String}

/-- When an instance is released, its library is still used if another instance uses it. -/
theorem inUse_release_iff (hb : b.Sound) (hslot : b.slot? name = some i) :
    (b.follow (.release name)).InUse n ↔
      ∃ k ∈ b.instances, k.number ≠ i.number ∧ k.library = n := by
  have hperm := instances_perm hslot hb.names
  have hapart := (hperm.map Instance.number).nodup_iff.mp hb.custody.live_apart
  have hleft : (b.follow (.release name)).instances = (b.freeSlot name).instances := by
    rw [follow_release hslot]
    exact congrArg (List.map Prod.snd) (slots_finish (b.freeSlot name) i)
  unfold InUse
  rw [hleft]
  constructor
  · rintro ⟨k, hk, hlibrary⟩
    refine ⟨k, mem_freeSlot hk, ?_, hlibrary⟩
    intro hnumber
    exact (List.nodup_cons.mp hapart).1 (hnumber ▸ List.mem_map.mpr ⟨k, hk, rfl⟩)
  · rintro ⟨k, hk, hne, hlibrary⟩
    rcases List.mem_cons.mp (hperm.mem_iff.mp hk) with rfl | hk
    · exact absurd rfl hne
    · exact ⟨k, hk, hlibrary⟩

/-- Releasing an instance of a rack closes its library just if no other instance of the rack is
tracked with a path of it. -/
theorem closed_release_iff (hb : b.Sound) (hr : r ∈ b.racks) (hslot : b.slot? name = some i)
    (hrack : i.rack = r.number) :
    ∃ p, r.tracked.lookup i.number = some p ∧
      ((∃ q, .closed i.library q ∈ (b.follow (.release name)).journal) ↔
        ∀ e ∈ r.tracked, e.1 ≠ i.number → e.2.same p = false) := by
  have hi : i ∈ b.instances := (instances_perm hslot hb.names).mem_iff.mpr List.mem_cons_self
  obtain ⟨p, hlookup, h, hh, hnumber, hp⟩ :=
    (hb.custody.sound r hr).lookup_tracked hb.custody.live_apart hi hrack
  refine ⟨p, hlookup, ?_⟩
  obtain ⟨hafter, new, hnew, hends⟩ := sound_follow hb (.release name)
  have hused : (b.follow (.release name)).InUse i.library ↔
      ∃ e ∈ r.tracked, e.1 ≠ i.number ∧ h.path.same e.2 = true := by
    rw [inUse_release_iff hb hslot, (hb.custody.sound r hr).other_tracked_iff hh, hnumber]
  -- The library ends only when nobody uses it, and the rack is there to close it.
  have hclosed : (∃ q, .closed i.library q ∈ (b.follow (.release name)).journal) ↔
      ¬ (b.follow (.release name)).InUse i.library := by
    constructor
    · rintro ⟨q, hq⟩ hinUse
      have hend := (hafter.stillOpen_iff.mpr hinUse).2
      have hpos := endings_pos_of_closed hq
      omega
    · intro hunused
      obtain ⟨q, hq⟩ := ((ends_with_instance hb hnew hends hi hunused).1
        ⟨r, hr, hrack.symm⟩).1
      exact ⟨q, hnew ▸ List.mem_append_right _ hq⟩
  rw [hclosed, hused]
  constructor
  · intro hnone e he hne
    refine Bool.eq_false_iff.mpr fun hsame => hnone ⟨e, he, hne, ?_⟩
    rw [Path.same_congr hp, Path.same_comm]
    exact hsame
  · rintro hnone ⟨e, he, hne, hsame⟩
    rw [Path.same_congr hp, Path.same_comm, hnone e he hne] at hsame
    cases hsame

/-! ## The laws -/

/-- Whatever is asked of a bench, in any order: the paths that a rack holds are the ones of the
instances that it tracks, which are its instances that live; it holds one open library for each of
them, and counts the instances of it; and a library that is open is held once if a rack of its
instances is there. So releasing an instance closes its library just if no other instance of the
rack has the same path, no closing is ever deferred, and there are never unused libraries to
close. -/
theorem a_rack_holds_the_libraries_of_its_instances (files : FileTree)
    (sources : List (Path × LibrarySource)) (elsewhere : LibrarySource) (orders : List Order) :
    let b := (empty files sources elsewhere).run orders
    (∀ r ∈ b.racks,
      (∀ p, (r.holding? p).isSome ↔ ∃ e ∈ r.tracked, e.2.same p = true) ∧
      (r.tracked.map Prod.fst).Perm
        ((b.instances.filter fun i => i.rack == r.number).map Instance.number) ∧
      r.holdings.Pairwise (fun h k => h.path.same k.path = false ∧ h.number ≠ k.number) ∧
      (∀ h ∈ r.holdings, 0 < h.live ∧
        h.live = r.tracked.countP (fun e => h.path.same e.2) ∧
        h.live = b.instances.countP (fun i => i.library == h.number) ∧
        StillOpen b.journal h.number ∧
        ∃ specimen, .opened h.number h.path specimen ∈ b.journal) ∧
      (∀ name i, b.slot? name = some i → i.rack = r.number →
        ∃ p, r.tracked.lookup i.number = some p ∧
          ((∃ q, .closed i.library q ∈ (b.follow (.release name)).journal) ↔
            ∀ e ∈ r.tracked, e.1 ≠ i.number → e.2.same p = false)) ∧
      r.unloadUnused b.machine = (0, r, b.machine)) ∧
    (∀ n, StillOpen b.journal n ↔ ∃ i ∈ b.instances, i.library = n) ∧
    (∀ n, holdersOf b.racks n ≤ 1 ∧
      (0 < holdersOf b.racks n ↔ ∃ i ∈ b.instances, i.library = n ∧ b.HasRack i.rack)) ∧
    ∀ n p, .deferred n p ∉ b.journal := by
  intro b
  have hb : b.Sound := sound_run (sound_empty files sources elsewhere) orders
  have c := hb.custody
  refine ⟨fun r hr => ?_, fun n => c.stillOpen_iff,
    fun n => ⟨c.holdersOf_le_one n, c.holdersOf_pos_iff_used⟩, c.linker.kept⟩
  have hsound := c.sound r hr
  refine ⟨fun p => hsound.holding?_isSome_iff, hsound.tracked_perm, hsound.apart, ?_,
    fun name i => closed_release_iff hb hr, hsound.unloadUnused b.machine⟩
  intro h hh
  have hcounted : h.live = usersOf b.instances h.number := hsound.counted h hh
  obtain ⟨i, hi, hlibrary, _⟩ := c.used_of_held hr hh
  exact ⟨hsound.busy h hh, hcounted.trans (hsound.countP_tracked hh).symm, hcounted,
    c.stillOpen_iff.mpr ⟨i, hi, hlibrary⟩, c.opened_at r hr h hh⟩

/-- Of two trackers of one library the first is released, and then the second. -/
theorem the_second_of_two_trackers_closes_the_library :
    let two := trackerMade ++ [asked "tempo" "y"]
    (¬ ∃ q, .closed 0 q ∈ ((trial two).follow (.release "x")).journal) ∧
      ∃ q, .closed 0 q ∈ ((trial (two ++ [.release "x"])).follow (.release "y")).journal := by
  intro two
  have hlaws := a_rack_holds_the_libraries_of_its_instances
    ⟨[([['l']], .file (.bytes []) false)]⟩ [] (.specimen .analysers)
  constructor
  · have hrack : (0, [(1, ⟨"l"⟩), (2, ⟨"l"⟩)]) ∈
        (trial two).racks.map (fun r => (r.number, r.tracked)) := by
      decide +kernel
    have hslot : ((trial two).slot? "x").map (fun i => (i.number, i.library, i.rack)) =
        some (1, 0, 0) := by
      decide +kernel
    obtain ⟨r, hr, hpair⟩ := List.mem_map.mp hrack
    obtain ⟨hnumber, htracked⟩ := Prod.mk.inj hpair
    obtain ⟨i, hi, htriple⟩ := Option.map_eq_some_iff.mp hslot
    obtain ⟨hfirst, hrest⟩ := Prod.mk.inj htriple
    obtain ⟨hlibrary, hirack⟩ := Prod.mk.inj hrest
    obtain ⟨_, _, _, _, hrelease, _⟩ := (hlaws two).1 r hr
    obtain ⟨p, hlookup, hiff⟩ := hrelease "x" i hi (hirack.trans hnumber.symm)
    rw [hlibrary, htracked, hfirst] at hiff
    rw [htracked, hfirst] at hlookup
    obtain rfl : ⟨"l"⟩ = p := Option.some.inj hlookup
    intro hclosed
    have hother := hiff.mp hclosed (2, ⟨"l"⟩) (by simp) (by decide)
    rw [Path.same_refl] at hother
    cases hother
  · have hrack : (0, [(2, ⟨"l"⟩)]) ∈
        (trial (two ++ [.release "x"])).racks.map (fun r => (r.number, r.tracked)) := by
      decide +kernel
    have hslot : ((trial (two ++ [.release "x"])).slot? "y").map
        (fun i => (i.number, i.library, i.rack)) = some (2, 0, 0) := by
      decide +kernel
    obtain ⟨r, hr, hpair⟩ := List.mem_map.mp hrack
    obtain ⟨hnumber, htracked⟩ := Prod.mk.inj hpair
    obtain ⟨i, hi, htriple⟩ := Option.map_eq_some_iff.mp hslot
    obtain ⟨hfirst, hrest⟩ := Prod.mk.inj htriple
    obtain ⟨hlibrary, hirack⟩ := Prod.mk.inj hrest
    have hleft := hlaws (two ++ [.release "x"])
    obtain ⟨_, _, _, _, hrelease, _⟩ := hleft.1 r hr
    obtain ⟨p, _, hiff⟩ := hrelease "y" i hi (hirack.trans hnumber.symm)
    rw [hlibrary, htracked, hfirst] at hiff
    refine hiff.mpr fun e he hne => ?_
    rw [List.mem_singleton.mp he] at hne
    exact absurd rfl hne

end Bench

end AudioHost
