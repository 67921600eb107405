import AudioHost.Proofs.Rack.Calls

/-!
The laws of the libraries of a bench. Every library is opened once and ends once, with its last
user: it is closed while the rack of its instances is there, and dropped once that is gone. Plugins
are called only in between.
-/

namespace AudioHost

namespace Journal

theorem ends_cases {e : Event} {n : Nat} (h : e.ends n = true) :
    (∃ p, e = .closed n p) ∨ ∃ p, e = .dropped n p := by
  cases e with
  | closed m p => exact Or.inl ⟨p, by rw [eq_of_beq h]⟩
  | dropped m p => exact Or.inr ⟨p, by rw [eq_of_beq h]⟩
  | _ => cases h

theorem openings_append (j new : Journal) (n : Nat) :
    openings (j ++ new) n = openings j n + openings new n :=
  List.countP_append

theorem endings_append (j new : Journal) (n : Nat) :
    endings (j ++ new) n = endings j n + endings new n :=
  List.countP_append

theorem openings_pos {j : Journal} {n : Nat} {p : Path} {specimen : Bool}
    (h : .opened n p specimen ∈ j) : 0 < openings j n :=
  List.countP_pos_iff.mpr ⟨_, h, beq_self_eq_true n⟩

theorem endings_pos_of_closed {j : Journal} {n : Nat} {p : Path} (h : .closed n p ∈ j) :
    0 < endings j n :=
  List.countP_pos_iff.mpr ⟨_, h, beq_self_eq_true n⟩

theorem ended {new : Journal} {n : Nat} (h : 0 < endings new n) :
    (∃ p, .closed n p ∈ new) ∨ ∃ p, .dropped n p ∈ new := by
  obtain ⟨e, he, hends⟩ := List.countP_pos_iff.mp h
  obtain ⟨p, rfl⟩ | ⟨p, rfl⟩ := ends_cases hends
  · exact Or.inl ⟨p, he⟩
  · exact Or.inr ⟨p, he⟩

end Journal

namespace Bench

open Journal

variable {b : Bench} {r : Rack} {i : Instance} {n : Nat} {new : Journal}

/-- An instance that lives uses a library. -/
def InUse (b : Bench) (n : Nat) : Prop := ∃ i ∈ b.instances, i.library = n

theorem not_inUse (h : b.instances.length = 0) (n : Nat) : ¬ b.InUse n := by
  rintro ⟨i, hi, _⟩
  rw [List.length_eq_zero_iff.mp h] at hi
  cases hi

/-! ## Open libraries -/

theorem Sound.stillOpen_iff (hb : b.Sound) : StillOpen b.journal n ↔ b.InUse n :=
  hb.custody.stillOpen_iff

theorem Sound.endings_le (hb : b.Sound) (n : Nat) : endings b.journal n ≤ openings b.journal n := by
  have heq := hb.custody.linker.handles_eq n
  unfold journal Machine.journal
  omega

theorem Sound.find?_isSome_iff (hb : b.Sound) :
    (b.machine.linker.find? n).isSome ↔ b.InUse n := by
  rw [← hb.stillOpen_iff, StillOpen]
  have hone := hb.custody.linker.openings_le_one n
  have heq := hb.custody.linker.handles_eq n
  have hhandles := @Linker.handles_pos_iff b.machine.linker n
  rw [Linker.find?, List.find?_isSome]
  simp only [beq_iff_eq]
  rw [← hhandles]
  unfold journal Machine.journal
  omega

/-- A library that was opened and is not used any more has ended. -/
theorem Sound.endings_pos (hb : b.Sound) (hopened : 0 < openings b.journal n)
    (hunused : ¬ b.InUse n) : 0 < endings b.journal n := by
  refine Nat.pos_of_ne_zero fun hzero => ?_
  exact hunused (hb.stillOpen_iff.mp ⟨hopened, hzero⟩)

/-! ## How libraries end -/

/-- The library of an instance that ends in an order is closed if the rack is there, and otherwise
it is dropped. -/
theorem ends_with_instance (hb : b.Sound) {order : Order}
    (hnew : (b.follow order).journal = b.journal ++ new)
    (hends : ∀ e ∈ new, e.EndsOnly b.MayClose b.MayDrop)
    (hi : i ∈ b.instances) (hunused : ¬ (b.follow order).InUse i.library) :
    (b.HasRack i.rack → (∃ p, .closed i.library p ∈ new) ∧ ∀ p, .dropped i.library p ∉ new) ∧
    (¬ b.HasRack i.rack → (∃ p, .dropped i.library p ∈ new) ∧ ∀ p, .closed i.library p ∉ new) := by
  obtain ⟨hopened, hend⟩ := hb.stillOpen_iff.mpr ⟨i, hi, rfl⟩
  -- It was open and nobody uses it any more, so its end is among what was added.
  have hafter : 0 < endings (b.follow order).journal i.library := by
    refine (sound_follow hb order).1.endings_pos ?_ hunused
    rw [hnew, openings_append]
    omega
  rw [hnew, endings_append, hend, Nat.zero_add] at hafter
  constructor
  · rintro ⟨r, hr, hrack⟩
    have hnodrop : ∀ p, .dropped i.library p ∉ new := by
      intro p hp
      obtain ⟨k, hk, hlibrary, hgone⟩ := hends _ hp
      exact hgone ⟨r, hr, (hb.custody.same_rack hr hi hrack.symm hk hlibrary).symm⟩
    refine ⟨(ended hafter).resolve_right ?_, hnodrop⟩
    rintro ⟨p, hp⟩
    exact hnodrop p hp
  · intro hgone
    have hnoclose : ∀ p, .closed i.library p ∉ new := fun p hp => hgone (hends _ hp i hi rfl)
    refine ⟨(ended hafter).resolve_left ?_, hnoclose⟩
    rintro ⟨p, hp⟩
    exact hnoclose p hp

/-- A library that is opened in an order but not used after it is closed. -/
theorem ends_unused (hb : b.Sound) {order : Order}
    (hnew : (b.follow order).journal = b.journal ++ new)
    (hends : ∀ e ∈ new, e.EndsOnly b.MayClose b.MayDrop)
    {p : Path} {specimen : Bool} (hopened : .opened n p specimen ∈ new)
    (hunused : ¬ (b.follow order).InUse n) :
    (∃ q, .closed n q ∈ new) ∧ ∀ q, .dropped n q ∉ new := by
  have hb' := (sound_follow hb order).1
  have hone := hb'.custody.linker.openings_le_one n
  have hin := openings_pos hopened
  change openings (b.follow order).journal n ≤ 1 at hone
  rw [hnew, openings_append] at hone
  have hbefore := hb.endings_le n
  have hafter := hb'.endings_pos (n := n) (by rw [hnew, openings_append]; omega) hunused
  rw [hnew, endings_append] at hafter
  -- Only libraries of instances that lived before are dropped, and this one was not open then.
  have hnodrop : ∀ q, .dropped n q ∉ new := by
    intro q hq
    obtain ⟨k, hk, hlibrary, _⟩ := hends _ hq
    have := (hb.stillOpen_iff.mpr ⟨k, hk, hlibrary⟩).1
    omega
  refine ⟨(ended (by omega)).resolve_right ?_, hnodrop⟩
  rintro ⟨q, hq⟩
  exact hnodrop q hq

/-! ## The laws -/

/-- Whatever is asked of a bench, in any order: plugins are called only while their library is open,
and every library is opened once, is open just while an instance uses it, and ends once. In each
order, the library of a last instance is closed if the rack of the instance is there, and dropped if
that is gone; a library that is opened in vain is closed; every call is made for the instance that
the order concerns, into its library, or it makes an instance; and no instance changes its
library. -/
theorem every_library_ends_once_with_its_last_user (files : FileTree)
    (sources : List (Path × LibrarySource)) (elsewhere : LibrarySource) (orders : List Order) :
    let b := (empty files sources elsewhere).run orders
    WellTimed b.journal ∧
      (∀ n, openings b.journal n ≤ 1 ∧ endings b.journal n ≤ openings b.journal n ∧
        (StillOpen b.journal n ↔ b.InUse n) ∧ ((b.machine.linker.find? n).isSome ↔ b.InUse n) ∧
        (¬ b.InUse n → endings b.journal n = openings b.journal n)) ∧
      ∀ order, ∃ new, (b.follow order).journal = b.journal ++ new ∧
        (∀ i ∈ b.instances, ¬ (b.follow order).InUse i.library →
          (b.HasRack i.rack →
            (∃ p, .closed i.library p ∈ new) ∧ ∀ p, .dropped i.library p ∉ new) ∧
          (¬ b.HasRack i.rack →
            (∃ p, .dropped i.library p ∈ new) ∧ ∀ p, .closed i.library p ∉ new)) ∧
        (∀ n p specimen, .opened n p specimen ∈ new → ¬ (b.follow order).InUse n →
          (∃ q, .closed n q ∈ new) ∧ ∀ q, .dropped n q ∉ new) ∧
        (∀ n listedAs call, .called n listedAs call ∈ new → b.MayCall order n call) ∧
        ∀ i ∈ (b.follow order).instances, b.KnowsOrMakes (b.follow order) i := by
  intro b
  have hb : b.Sound := sound_run (sound_empty files sources elsewhere) orders
  refine ⟨hb.custody.linker.timely, ?_, ?_⟩
  · intro n
    have hone : openings b.journal n ≤ 1 := hb.custody.linker.openings_le_one n
    have hle := hb.endings_le n
    refine ⟨hone, hle, hb.stillOpen_iff, hb.find?_isSome_iff, fun hunused => ?_⟩
    rcases Nat.eq_zero_or_pos (openings b.journal n) with hzero | hopened
    · omega
    · have hended := hb.endings_pos hopened hunused
      omega
  · intro order
    obtain ⟨_, new, hnew, hends⟩ := sound_follow hb order
    exact ⟨new, hnew, fun i hi => ends_with_instance hb hnew hends hi,
      fun n p specimen => ends_unused hb hnew hends,
      fun n listedAs call => (addsCalls_follow b order).of_append hnew _,
      knowsOrMakes_follow b order⟩

/-- A tracker is released, once while its rack is there and once after that is gone, and an analyser
that cannot be made is asked for. -/
theorem a_library_ends_in_three_ways :
    (∃ new, ((trial trackerMade).follow (.release "x")).journal =
        (trial trackerMade).journal ++ new ∧ ∃ p, .closed 0 p ∈ new) ∧
      (∃ new, ((trial (trackerMade ++ [.dropRack 0])).follow (.release "x")).journal =
          (trial (trackerMade ++ [.dropRack 0])).journal ++ new ∧ ∃ p, .dropped 0 p ∈ new) ∧
      ∃ new, ((trial rackAdded).follow (asked "broken" "y")).journal =
          (trial rackAdded).journal ++ new ∧ ∃ p, .closed 0 p ∈ new := by
  have hlaws := every_library_ends_once_with_its_last_user
    ⟨[([['l']], .file (.bytes []) false)]⟩ [] (.specimen .analysers)
  refine ⟨?_, ?_, ?_⟩
  · obtain ⟨new, hnew, hends, _⟩ := (hlaws trackerMade).2.2 (.release "x")
    have hmade : (0, 0) ∈ (trial trackerMade).instances.map (fun i => (i.library, i.rack)) := by
      decide +kernel
    have hracks : 0 ∈ (trial trackerMade).racks.map Rack.number := by decide +kernel
    have hnone : ((trial trackerMade).follow (.release "x")).instances.length = 0 := by
      decide +kernel
    obtain ⟨i, hi, heq⟩ := List.mem_map.mp hmade
    obtain ⟨r, hr, hnumber⟩ := List.mem_map.mp hracks
    obtain ⟨hlibrary, hrack⟩ := Prod.mk.inj heq
    have hclosed := ((hends i hi (not_inUse hnone _)).1 ⟨r, hr, hnumber.trans hrack.symm⟩).1
    rw [hlibrary] at hclosed
    exact ⟨new, hnew, hclosed⟩
  · obtain ⟨new, hnew, hends, _⟩ := (hlaws (trackerMade ++ [.dropRack 0])).2.2 (.release "x")
    have hmade : 0 ∈ (trial (trackerMade ++ [.dropRack 0])).instances.map Instance.library := by
      decide +kernel
    have hracks : (trial (trackerMade ++ [.dropRack 0])).racks.length = 0 := by decide +kernel
    have hnone : ((trial (trackerMade ++ [.dropRack 0])).follow
        (.release "x")).instances.length = 0 := by
      decide +kernel
    obtain ⟨i, hi, hlibrary⟩ := List.mem_map.mp hmade
    have hgone : ¬ (trial (trackerMade ++ [.dropRack 0])).HasRack i.rack := by
      rintro ⟨r, hr, _⟩
      rw [List.length_eq_zero_iff.mp hracks] at hr
      cases hr
    have hdropped := ((hends i hi (not_inUse hnone _)).2 hgone).1
    rw [hlibrary] at hdropped
    exact ⟨new, hnew, hdropped⟩
  · obtain ⟨new, hnew, _, hvain, _⟩ := (hlaws rackAdded).2.2 (asked "broken" "y")
    have hnone : ((trial rackAdded).follow (asked "broken" "y")).instances.length = 0 := by
      decide +kernel
    have hbefore : (trial rackAdded).journal = [] := by decide +kernel
    have hafter :
        .opened 0 ⟨"l"⟩ true ∈ ((trial rackAdded).follow (asked "broken" "y")).journal := by
      decide +kernel
    have hopened : .opened 0 ⟨"l"⟩ true ∈ new := by
      change ((trial rackAdded).follow (asked "broken" "y")).journal =
        (trial rackAdded).journal ++ new at hnew
      rw [hnew, hbefore] at hafter
      exact hafter
    exact ⟨new, hnew, (hvain 0 _ _ hopened (not_inUse hnone 0)).1⟩

end Bench

end AudioHost
