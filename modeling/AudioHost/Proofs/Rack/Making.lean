import AudioHost.Proofs.Rack.Custody

/-!
Making an instance. A rack reserves the library for it and is its guest meanwhile; if no instance
comes of it, the reservation is given back, and the library is closed if nobody else uses it.
-/

namespace AudioHost

open Journal

variable {m m' : Machine} {r r' : Rack} {racks : List Rack} {live : List Instance}
variable {reserved guests : Nat → Nat} {h : Holding} {p : Path} {i : Instance} {n : Nat}

/-! ## Calls -/

theorem Machine.noteCalls_next (m : Machine) (n : Nat) (listedAs : Option String)
    (calls : List NativeCall) : (m.noteCalls n listedAs calls).next = m.next := by
  induction calls generalizing m with
  | nil => rfl
  | cons c calls ih => exact ih _

/-- Calls into the plugins of a library are noted while it is used. -/
theorem Custody.noteCalls (c : Custody m racks live reserved guests)
    (hused : 0 < uses racks live guests n) (listedAs : Option String) (calls : List NativeCall) :
    Custody (m.noteCalls n listedAs calls) racks live reserved guests ∧
      AddsEnds noNumber noNumber m.journal (m.noteCalls n listedAs calls).journal := by
  induction calls generalizing m with
  | nil => exact ⟨c, adds_refl _ _⟩
  | cons call calls ih =>
    have hadds : AddsEnds noNumber noNumber m.journal (m.note (.called n listedAs call)).journal :=
      adds_snoc trivial
    have hnoted : Custody (m.note (.called n listedAs call)) racks live reserved guests :=
      c.withMachine (c.linker.note_called hused listedAs call) (Nat.le_refl _) hadds
    obtain ⟨hlast, hmore⟩ := ih hnoted
    exact ⟨hlast, hadds.trans hmore⟩

/-! ## Acquiring a library -/

theorem Rack.acquire_error {e : PluginError} (ho : r.acquire p m = (.error e, r', m')) :
    r' = r ∧ ∃ l, m.linker.openAt m.files p = (.error e, l) ∧ m' = m.withLinker l := by
  unfold acquire at ho
  rcases hheld : r.holding? p with _ | h
  · rw [hheld] at ho
    rcases hopen : m.linker.openAt m.files p with ⟨e' | o, l⟩
    · simp only [Machine.openLibrary, hopen] at ho
      cases ho
      exact ⟨rfl, l, rfl, rfl⟩
    · simp only [Machine.openLibrary, hopen] at ho
      cases ho
  · rw [hheld] at ho
    cases ho

theorem Rack.acquire_ok (ho : r.acquire p m = (.ok h, r', m')) :
    (r.holding? p = some h ∧ r' = r.updateHolding p (fun k => { k with live := k.live + 1 }) ∧
      m' = m.share h.number) ∨
    (r.holding? p = none ∧ ∃ o l, m.linker.openAt m.files p = (.ok o, l) ∧
      h = ⟨p, o.number, o.exports, 1⟩ ∧ r' = { r with holdings := r.holdings ++ [h] } ∧
      m' = (m.withLinker l).share o.number) := by
  unfold acquire at ho
  rcases hheld : r.holding? p with _ | k
  · rw [hheld] at ho
    rcases hopen : m.linker.openAt m.files p with ⟨e | o, l⟩
    · simp only [Machine.openLibrary, hopen] at ho
      cases ho
    · simp only [Machine.openLibrary, hopen] at ho
      cases ho
      exact Or.inr ⟨rfl, o, l, rfl, rfl, rfl, rfl⟩
  · rw [hheld] at ho
    cases ho
    exact Or.inl ⟨rfl, rfl, rfl⟩

namespace Custody

theorem acquire_error (c : Custody m (r :: racks) live nobody nobody) {e : PluginError}
    (ho : r.acquire p m = (.error e, r', m')) :
    r' = r ∧ Custody m' (r :: racks) live nobody nobody ∧
      AddsEnds noNumber noNumber m.journal m'.journal := by
  obtain ⟨rfl, l, hopen, rfl⟩ := Rack.acquire_error ho
  have hadds : AddsEnds noNumber noNumber m.journal (m.withLinker l).journal := by
    rw [Linker.openAt_error hopen]
    exact adds_snoc trivial
  exact ⟨rfl, c.withMachine (c.linker.openAt_error hopen) (Nat.le_refl _) hadds, hadds⟩

theorem acquire_held (c : Custody m (r :: racks) live nobody nobody)
    (hheld : r.holding? p = some h) :
    Custody (m.share h.number)
      (r.updateHolding p (fun k => { k with live := k.live + 1 }) :: racks) live
      (just h.number) (just h.number) := by
  obtain ⟨hh, hp⟩ := Rack.mem_of_holding? hheld
  have hr := c.sound r List.mem_cons_self
  refine c.change rfl (fun k => Rack.mem_updateHolding fun live => live + 1) ?_ c.live_apart
    c.live_known ?_ (Nat.le_refl _) (adds_refl (Event.EndsOnly noNumber noNumber) _)
  · intro q hq
    rcases List.mem_cons.mp hq with rfl | hq
    · exact hr.reserve hh hp
    · refine (c.sound q (List.mem_cons_of_mem r hq)).reserved_congr fun k hk => ?_
      exact just_of_ne (c.number_ne hh hq hk)
  · refine c.linker.share (uses_pos List.mem_cons_self hh _ _) fun n => ?_
    rw [uses, uses, holdersOf_cons, holdersOf_cons,
      Rack.countP_updateHolding r p (fun live => live + 1), nobody, Nat.add_zero]

theorem acquire_opened (c : Custody m (r :: racks) live nobody nobody) (hp : r.holding? p = none)
    {o : OpenLibrary} {l : Linker} (hopen : m.linker.openAt m.files p = (.ok o, l))
    (hh : h = ⟨p, o.number, o.exports, 1⟩) :
    Custody ((m.withLinker l).share o.number)
      ({ r with holdings := r.holdings ++ [h] } :: racks) live (just h.number) (just h.number) ∧
    AddsEnds noNumber noNumber m.journal ((m.withLinker l).share o.number).journal := by
  have hnew := c.linker.uses_next (Nat.le_refl m.linker.next)
  obtain ⟨hnumber, hpath, husers, specimen, hl⟩ := Linker.openAt_ok hopen
  rw [← hnumber, uses, nobody] at hnew
  -- The number of the library is new, so no rack holds it and no instance uses it.
  have hfresh := holdersOf_eq_zero_iff.mp (by omega : holdersOf (r :: racks) o.number = 0)
  have hr := c.sound r List.mem_cons_self
  have hjournal : l.journal = m.journal ++ [.opened o.number p specimen] := by
    rw [hl, hnumber]
    rfl
  have hadds : AddsEnds noNumber noNumber m.journal l.journal := by
    rw [hjournal]
    exact adds_snoc trivial
  have hsound : ({ r with holdings := r.holdings ++ [h] } : Rack).Sound live (just h.number) := by
    subst hh
    exact hr.hold hp (hfresh r List.mem_cons_self) (by omega) o.exports
  subst hh
  refine ⟨⟨?_, c.racks_apart, c.live_apart, ?_, ?_, ?_, c.live_known, ?_⟩, hadds⟩
  · have hopened : l.Sound fun n => uses (r :: racks) live nobody n + just o.number n := by
      refine c.linker.openAt_ok hopen fun n => ?_
      rw [hnumber]
    refine hopened.share (by rw [just_self]; exact Nat.succ_pos _) fun n => ?_
    rw [uses, uses, holdersOf_cons, holdersOf_cons, List.countP_append, List.countP_singleton,
      if_beq_eq_just, nobody]
    dsimp only
    omega
  · obtain ⟨hfirst, hrest⟩ := List.pairwise_cons.mp c.disjoint
    refine List.pairwise_cons.mpr ⟨?_, hrest⟩
    intro q hq k hk j hj
    rcases List.mem_append.mp hk with hk | hk
    · exact hfirst q hq k hk j hj
    · rw [List.mem_singleton.mp hk]
      exact (hfresh q (List.mem_cons_of_mem r hq) j hj).symm
  · intro q hq
    rcases List.mem_cons.mp hq with rfl | hq
    · exact hsound
    · have hmem := List.mem_cons_of_mem r hq
      refine (c.sound q hmem).reserved_congr fun k hk => ?_
      exact just_of_ne (hfresh q hmem k hk)
  · intro q hq
    rcases List.mem_cons.mp hq with rfl | hq
    · exact c.racks_known r List.mem_cons_self
    · exact c.racks_known q (List.mem_cons_of_mem r hq)
  · intro q hq k hk
    have hold : ∀ q' ∈ r :: racks, k ∈ q'.holdings →
        ∃ specimen, .opened k.number k.path specimen ∈ l.journal := by
      intro q' hq' hk'
      obtain ⟨specimen, hmem⟩ := c.opened_at q' hq' k hk'
      exact ⟨specimen, hadds.mem hmem⟩
    rcases List.mem_cons.mp hq with rfl | hq
    · rcases List.mem_append.mp hk with hk | hk
      · exact hold r List.mem_cons_self hk
      · refine ⟨specimen, ?_⟩
        rw [List.mem_singleton.mp hk]
        show _ ∈ l.journal
        rw [hjournal]
        simp
    · exact hold q (List.mem_cons_of_mem r hq) hk

/-- A library that is acquired is held and reserved. -/
theorem acquire_ok (c : Custody m (r :: racks) live nobody nobody)
    (ho : r.acquire p m = (.ok h, r', m')) :
    r'.number = r.number ∧ (∃ k ∈ r'.holdings, k.number = h.number ∧ k.path.same p = true) ∧
      Custody m' (r' :: racks) live (just h.number) (just h.number) ∧
      AddsEnds noNumber noNumber m.journal m'.journal := by
  obtain ⟨hheld, rfl, rfl⟩ | ⟨hp, o, l, hopen, hh, rfl, rfl⟩ := Rack.acquire_ok ho
  · obtain ⟨hmem, hsame⟩ := Rack.mem_of_holding? hheld
    refine ⟨rfl, ⟨_, List.mem_map.mpr ⟨h, hmem, rfl⟩, ?_⟩, c.acquire_held hheld, adds_refl _ _⟩
    rw [if_pos hsame]
    exact ⟨rfl, hsame⟩
  · obtain ⟨hopened, hadds⟩ := c.acquire_opened hp hopen hh
    refine ⟨rfl, ⟨h, by simp, rfl, ?_⟩, hopened, hadds⟩
    rw [hh]
    exact Path.same_refl p

end Custody

/-! ## Making -/

/-- A call makes an instance. -/
def NativeCall.Makes : NativeCall → Prop
  | .instantiateEffect _ => True
  | .instantiateAnalyser _ => True
  | _ => False

theorem Instance.makes_makingCall (d : Descriptor) (rate : Single) :
    (makingCall d rate).Makes := by
  cases d <;> trivial

theorem Rack.make_error {id : Identifier} {rate : Single} {e : PluginError}
    (hmade : r.make id rate p h m = (.error e, m')) :
    ∃ listedAs calls, (∀ call ∈ calls, call.Makes) ∧
      m' = m.noteCalls h.number listedAs calls := by
  unfold Rack.make at hmade
  split at hmade
  · cases hmade
    exact ⟨none, [], by simp, rfl⟩
  · next d _ =>
    unfold Instance.create at hmade
    split at hmade
    · cases hmade
      exact ⟨none, [], by simp, rfl⟩
    · dsimp only at hmade
      split at hmade
      · cases hmade
        refine ⟨_, _, fun call hcall => ?_, rfl⟩
        rw [List.mem_singleton.mp hcall]
        exact Instance.makes_makingCall d rate
      · cases hmade

theorem Rack.make_ok {id : Identifier} {rate : Single}
    (hmade : r.make id rate p h m = (.ok i, m')) :
    i.number = m.next ∧ i.rack = r.number ∧ i.library = h.number ∧
      ∃ d, find r.kind p h.exports id.label = .ok d ∧
        m' = { (m.noteCalls h.number (Instance.engineOf d).listedAs
          [Instance.makingCall d rate]).share h.number with next := m.next + 1 } := by
  unfold Rack.make at hmade
  split at hmade
  · cases hmade
  · next d hfound =>
    unfold Instance.create at hmade
    split at hmade
    · cases hmade
    · dsimp only at hmade
      split at hmade
      · cases hmade
      · cases hmade
        rw [Machine.noteCalls_next]
        exact ⟨rfl, rfl, rfl, d, hfound, rfl⟩

namespace Custody

/-- An instance is made: it takes the place of its reservation. -/
theorem make_ok (c : Custody m (r :: racks) live (just h.number) (just h.number))
    {id : Identifier} {rate : Single} (hmade : r.make id rate p h m = (.ok i, m'))
    (hheld : ∃ k ∈ r.holdings, k.number = h.number ∧ k.path.same p = true) :
    Custody m' ({ r with tracked := r.tracked ++ [(i.number, p)] } :: racks) (i :: live) nobody
      (just h.number) ∧ AddsEnds noNumber noNumber m.journal m'.journal := by
  obtain ⟨hnumber, hrack, hlibrary, d, _, rfl⟩ := Rack.make_ok hmade
  obtain ⟨k, hk, hknumber, hsame⟩ := hheld
  have hused : 0 < uses (r :: racks) live (just h.number) h.number :=
    hknumber ▸ uses_pos List.mem_cons_self hk _ _
  obtain ⟨hcalled, hadds⟩ :=
    c.noteCalls hused (Instance.engineOf d).listedAs [Instance.makingCall d rate]
  have hr : r.Sound live (just i.library) := hlibrary ▸ c.sound r List.mem_cons_self
  refine ⟨c.change rfl (fun l hl => ⟨l, hl, rfl, rfl⟩) ?_ ?_ ?_ ?_ (Nat.le_succ _) hadds, hadds⟩
  · intro q hq
    rcases List.mem_cons.mp hq with rfl | hq
    · exact hr.track hrack ⟨k, hk, hknumber.trans hlibrary.symm, hsame⟩
    · -- Another rack does not hold the library, so the reservation was not in its books.
      have hother : ∀ l ∈ q.holdings, l.number ≠ h.number := by
        intro l hl
        rw [← hknumber]
        exact c.number_ne hk hq hl
      have hfree : q.Sound live nobody :=
        (c.sound q (List.mem_cons_of_mem r hq)).reserved_congr fun l hl =>
          (just_of_ne (hother l hl)).symm
      refine hfree.cons ?_ ?_
      · rw [hrack]
        exact c.rack_ne hq
      · rw [hlibrary]
        exact hother
  · rw [List.map_cons, List.nodup_cons]
    refine ⟨?_, c.live_apart⟩
    intro hmem
    obtain ⟨j, hj, heq⟩ := List.mem_map.mp hmem
    have := (c.live_known j hj).1
    omega
  · intro j hj
    show j.number < m.next + 1 ∧ j.rack < m.next + 1
    rcases List.mem_cons.mp hj with rfl | hj
    · have := c.racks_known r List.mem_cons_self
      omega
    · have := c.live_known j hj
      omega
  · refine hcalled.linker.share hused fun n => ?_
    rw [uses, uses, usersOf_cons, hlibrary, holdersOf_cons, holdersOf_cons]
    dsimp only
    omega

theorem make_error (c : Custody m (r :: racks) live (just h.number) (just h.number))
    {id : Identifier} {rate : Single} {e : PluginError}
    (hmade : r.make id rate p h m = (.error e, m')) :
    Custody m' (r :: racks) live (just h.number) (just h.number) ∧
      AddsEnds noNumber noNumber m.journal m'.journal := by
  obtain ⟨listedAs, calls, _, rfl⟩ := Rack.make_error hmade
  refine c.noteCalls ?_ listedAs calls
  rw [uses, just_self]
  exact Nat.succ_pos _

/-! ## Giving back -/

theorem unshare (c : Custody m racks live reserved (just n)) :
    Custody (m.unshare n) racks live reserved nobody ∧
      AddsEnds noNumber (fun k => k = n ∧ uses racks live nobody k = 0) m.journal
        (m.unshare n).journal := by
  have huses : ∀ k, uses racks live (just n) k = uses racks live nobody k + just n k := by
    intro k
    rw [uses, uses, nobody, Nat.add_zero]
  obtain ⟨hlinker, hadds⟩ := c.linker.unshare huses
  exact ⟨c.withMachine hlinker (Nat.le_refl _) hadds, hadds⟩

/-- A guest leaves a library that others use. -/
theorem unshare_of_used (c : Custody m racks live reserved (just n))
    (hused : 0 < uses racks live nobody n) :
    Custody (m.unshare n) racks live reserved nobody ∧
      AddsEnds noNumber noNumber m.journal (m.unshare n).journal := by
  obtain ⟨c', hadds⟩ := c.unshare
  refine ⟨c', hadds.mono (fun _ hn => hn) ?_⟩
  rintro k ⟨rfl, hzero⟩
  omega

/-- A reservation is given back. Without reservations and instances the library is closed. -/
theorem letGo (c : Custody m (r :: racks) live (just h.number) nobody) (hh : h ∈ r.holdings)
    (hp : h.path.same p = true) :
    Custody (r.letGo p m).2 ((r.letGo p m).1 :: racks) live nobody nobody ∧
      AddsEnds (· = h.number) noNumber m.journal (r.letGo p m).2.journal := by
  have hr := c.sound r List.mem_cons_self
  have hcounted := hr.counted h hh
  rw [just_self] at hcounted
  have hsound : ∀ q ∈ (r.letGo p m).1 :: racks, q.Sound live nobody := by
    intro q hq
    rcases List.mem_cons.mp hq with rfl | hq
    · exact hr.letGo hh hp m
    · refine (c.sound q (List.mem_cons_of_mem r hq)).reserved_congr fun k hk => ?_
      exact (just_of_ne (c.number_ne hh hq hk)).symm
  unfold Rack.letGo at hsound ⊢
  rw [hr.apart.holding?_eq hh hp] at hsound ⊢
  dsimp only at hsound ⊢
  split
  · next hmany =>
    rw [if_pos hmany] at hsound
    have hadds : AddsEnds (· = h.number) noNumber m.journal m.journal := adds_refl _ _
    refine ⟨c.change rfl (fun k => Rack.mem_updateHolding fun live => live - 1) hsound
      c.live_apart c.live_known ?_ (Nat.le_refl _) hadds, hadds⟩
    refine c.linker.congr fun n => ?_
    rw [uses, uses, holdersOf_cons, holdersOf_cons,
      Rack.countP_updateHolding r p (fun live => live - 1)]
  · next hlast =>
    rw [if_neg hlast] at hsound
    -- Without the holding nobody is left who uses the library.
    have hgone : uses (r.removeHolding p :: racks) live nobody h.number = 0 := by
      have hheld : holdersOf (r.removeHolding p :: racks) h.number = 0 := by
        refine holdersOf_eq_zero_iff.mpr fun q hq k hk => ?_
        rcases List.mem_cons.mp hq with rfl | hq
        · exact (hr.apart.mem_removeHolding hh hp hk).2
        · exact c.number_ne hh hq hk
      rw [uses, hheld, nobody]
      omega
    obtain ⟨hlinker, hadds⟩ := c.linker.close hgone fun n => by
      rw [uses, uses, holdersOf_cons, holdersOf_cons, hr.apart.countP_removeHolding hh hp]
      omega
    refine ⟨c.change rfl ?_ hsound c.live_apart c.live_known hlinker (Nat.le_refl _) hadds, hadds⟩
    intro k hk
    exact ⟨k, (hr.apart.mem_removeHolding hh hp hk).1, rfl, rfl⟩

end Custody

/-! ## Instances -/

/-- What a failing instantiation comes to. -/
theorem Rack.instantiate_error {id : Identifier} {rate : Single} {e : PluginError}
    (hmade : r.instantiate id rate m = (.error e, r', m')) :
    (r' = r ∧ m' = m) ∨ (∃ p, r.acquire p m = (.error e, r', m')) ∨
      ∃ p h r₁ m₁ m₂, r.acquire p m = (.ok h, r₁, m₁) ∧
        r₁.make id rate p h m₁ = (.error e, m₂) ∧
        r₁.letGo p (m₂.unshare h.number) = (r', m') := by
  unfold Rack.instantiate at hmade
  split at hmade
  · cases hmade
    exact Or.inl ⟨rfl, rfl⟩
  · split at hmade
    · cases hmade
      exact Or.inl ⟨rfl, rfl⟩
    · next p _ =>
      rcases hacquired : r.acquire p m with ⟨e' | h, r₁, m₁⟩
      · rw [hacquired] at hmade
        cases hmade
        exact Or.inr (Or.inl ⟨p, hacquired⟩)
      · rcases hfailed : r₁.make id rate p h m₁ with ⟨e' | i, m₂⟩
        · rw [hacquired] at hmade
          simp only [hfailed] at hmade
          cases hmade
          exact Or.inr (Or.inr ⟨p, h, r₁, m₁, m₂, hacquired, hfailed, rfl⟩)
        · rw [hacquired] at hmade
          simp only [hfailed] at hmade
          cases hmade

/-- What an instantiation that makes an instance comes to. -/
theorem Rack.instantiate_ok {id : Identifier} {rate : Single}
    (hmade : r.instantiate id rate m = (.ok i, r', m')) :
    ∃ p h r₁ m₁ m₂, r.acquire p m = (.ok h, r₁, m₁) ∧ r₁.make id rate p h m₁ = (.ok i, m₂) ∧
      r' = { r₁ with tracked := r₁.tracked ++ [(i.number, p)] } ∧ m' = m₂.unshare h.number := by
  unfold Rack.instantiate at hmade
  split at hmade
  · cases hmade
  · split at hmade
    · cases hmade
    · next p _ =>
      rcases hacquired : r.acquire p m with ⟨e' | h, r₁, m₁⟩
      · rw [hacquired] at hmade
        cases hmade
      · rcases hmake : r₁.make id rate p h m₁ with ⟨e' | j, m₂⟩
        · rw [hacquired] at hmade
          simp only [hmake] at hmade
          cases hmade
        · rw [hacquired] at hmade
          simp only [hmake] at hmade
          cases hmade
          exact ⟨p, h, r₁, m₁, m₂, hacquired, hmake, rfl, rfl⟩

namespace Custody

/-- A failing instantiation leaves no trace but in the journal. If it closes a library, no other
rack uses that. -/
theorem instantiate_error (c : Custody m (r :: racks) live nobody nobody) {id : Identifier}
    {rate : Single} {e : PluginError} (hmade : r.instantiate id rate m = (.error e, r', m')) :
    r'.number = r.number ∧ Custody m' (r' :: racks) live nobody nobody ∧
      AddsEnds (fun n => ∀ i ∈ live, i.library = n → i.rack = r.number) noNumber m.journal
        m'.journal := by
  obtain ⟨rfl, rfl⟩ | ⟨p, hacquired⟩ | ⟨p, h, r₁, m₁, m₂, hacquired, hfailed, hletGo⟩ :=
    Rack.instantiate_error hmade
  · exact ⟨rfl, c, adds_refl _ _⟩
  · obtain ⟨rfl, c₁, hadds⟩ := c.acquire_error hacquired
    exact ⟨rfl, c₁, hadds.of_none⟩
  · -- The guest leaves before the reservation is given back, so the rack closes the library itself.
    obtain ⟨hnumber, ⟨k, hk, hknumber, hsame⟩, c₁, hadds₁⟩ := c.acquire_ok hacquired
    obtain ⟨c₂, hadds₂⟩ := c₁.make_error hfailed
    rw [← hknumber] at c₂ hletGo
    obtain ⟨c₃, hadds₃⟩ := c₂.unshare_of_used (uses_pos List.mem_cons_self hk _ _)
    obtain ⟨c₄, hadds₄⟩ := c₃.letGo hk hsame
    have hletGoNumber := Rack.letGo_number r₁ p (m₂.unshare k.number)
    rw [hletGo] at c₄ hadds₄ hletGoNumber
    have hmine := (c₃.sound r₁ List.mem_cons_self).mine k hk
    refine ⟨hletGoNumber.trans hnumber, c₄, ((hadds₁.trans hadds₂).trans hadds₃).of_none.trans ?_⟩
    refine hadds₄.mono ?_ (fun _ hn => hn)
    rintro n rfl i hi hlibrary
    rw [hmine i hi hlibrary, hnumber]

/-- An instantiation that makes an instance ends no library. -/
theorem instantiate_ok (c : Custody m (r :: racks) live nobody nobody) {id : Identifier}
    {rate : Single} (hmade : r.instantiate id rate m = (.ok i, r', m')) :
    r'.number = r.number ∧ Custody m' (r' :: racks) (i :: live) nobody nobody ∧
      AddsEnds noNumber noNumber m.journal m'.journal := by
  obtain ⟨p, h, r₁, m₁, m₂, hacquired, hmake, rfl, rfl⟩ := Rack.instantiate_ok hmade
  obtain ⟨hnumber, hheld, c₁, hadds₁⟩ := c.acquire_ok hacquired
  obtain ⟨c₂, hadds₂⟩ := c₁.make_ok hmake hheld
  obtain ⟨_, _, hlibrary, _⟩ := Rack.make_ok hmake
  obtain ⟨c₃, hadds₃⟩ := c₂.unshare_of_used (hlibrary ▸ uses_library_pos _ _ _ _)
  exact ⟨hnumber, c₃, (hadds₁.trans hadds₂).trans hadds₃⟩

end Custody

end AudioHost
