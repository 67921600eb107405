import AudioHost.Proofs.Rack.Ending
import AudioHost.Rack.Bench

/-!
What can be asked of a bench, in any order. Instances are made, used and ended, racks are added and
given up while their instances live on, and files and libraries change meanwhile.
-/

namespace AudioHost

/-- One thing that is asked of a bench, or that happens around it. -/
inductive Order where
  | addRack (kind : PluginKind) (searchPath : List Path)
  | dropRack (rack : Nat)
  | unloadUnused (rack : Nat)
  | instantiate (rack : Nat) (id : Identifier) (rate : Single) (name : String)
  | perform (name : String) (op : Operation)
  | connect (name : String) (port : Nat) (samples : Option (List Single))
  | release (name : String)
  /-- The files are others now. -/
  | files (t : FileTree)
  /-- A library is put at a path. -/
  | register (p : Path) (s : LibrarySource)

namespace Bench

open Journal

/-- The instances that live. -/
def instances (b : Bench) : List Instance := b.slots.map Prod.snd

/-- Everything that happened so far. -/
def journal (b : Bench) : Journal := b.machine.journal

/-- A rack is there. -/
def HasRack (b : Bench) (n : Nat) : Prop := ∃ r ∈ b.racks, r.number = n

/-- Does something with a rack, if it is there. -/
def withRack (b : Bench) (n : Nat) (f : Rack → Bench) : Bench :=
  match b.rack? n with
  | some r => f r
  | none => b

/-- Does something with the instance of a name, if there is one. -/
def withSlot (b : Bench) (name : String) (f : Instance → Bench) : Bench :=
  match b.slot? name with
  | some i => f i
  | none => b

/-- Fills the buffer for a port of a name. -/
def fillBuffer (b : Bench) (name : String) (port : Nat) (samples : List Single) : Bench :=
  { b with machine := { b.machine with
    buffers := b.machine.buffers.put ⟨name, port⟩ (Buffers.fill samples) } }

/-- Follows an order. One that concerns a rack or an instance that is not there does nothing. -/
def follow (b : Bench) : Order → Bench
  | .addRack kind searchPath => b.addRack kind searchPath
  | .dropRack n => b.withRack n b.dropRack
  | .unloadUnused n => b.withRack n fun r =>
    let (_, r, m) := r.unloadUnused b.machine
    b.putRack r m
  | .instantiate n id rate name => b.withRack n fun r => (b.instantiate r id rate name).2
  | .perform name op => b.withSlot name fun i => (b.perform name i op).2
  | .connect name port samples => b.withSlot name fun i => (b.connect name i port samples).2
  | .release name => b.withSlot name (b.release name)
  | .files t => { b with machine := { b.machine with files := t } }
  | .register p s =>
    { b with machine := b.machine.withLinker (b.machine.linker.register p s) }

/-- Follows orders one after the other. -/
def run (b : Bench) (orders : List Order) : Bench := orders.foldl follow b

/-- A bench without racks and instances, on a machine that has opened nothing. -/
def empty (files : FileTree) (sources : List (Path × LibrarySource)) (elsewhere : LibrarySource) :
    Bench :=
  start (.start files (.start sources elsewhere))

/-! ## The invariant -/

/-- The racks, the instances and the open libraries agree, and no two instances have one name. -/
structure Sound (b : Bench) : Prop where
  custody : Custody b.machine b.racks b.instances nobody nobody
  names : (b.slots.map Prod.fst).Nodup

variable {b : Bench} {r r' : Rack} {racks : List Rack} {m : Machine} {i : Instance} {n : Nat}
variable {name : String} {live : List Instance}

theorem sound_empty (files : FileTree) (sources : List (Path × LibrarySource))
    (elsewhere : LibrarySource) : (empty files sources elsewhere).Sound where
  custody := custody_start files sources elsewhere
  names := .nil

/-- A library may be closed in an order if every instance of it has its rack. -/
def MayClose (b : Bench) (n : Nat) : Prop := ∀ i ∈ b.instances, i.library = n → b.HasRack i.rack

/-- A library may be dropped in an order if an instance of it has lost its rack. -/
def MayDrop (b : Bench) (n : Nat) : Prop :=
  ∃ i ∈ b.instances, i.library = n ∧ ¬ b.HasRack i.rack

/-! ## Racks and names -/

theorem withRack_of {P : Bench → Prop} {f : Rack → Bench} (hnone : P b)
    (hsome : ∀ r, b.rack? n = some r → P (f r)) : P (b.withRack n f) := by
  unfold withRack
  split
  · next r hrack => exact hsome r hrack
  · exact hnone

theorem withSlot_of {P : Bench → Prop} {f : Instance → Bench} (hnone : P b)
    (hsome : ∀ i, b.slot? name = some i → P (f i)) : P (b.withSlot name f) := by
  unfold withSlot
  split
  · next i hslot => exact hsome i hslot
  · exact hnone

theorem connect_none (name : String) (i : Instance) (port : Nat) :
    b.connect name i port none = b.perform name i (.connectPort port none) := rfl

theorem connect_some (name : String) (i : Instance) (port : Nat) (samples : List Single) :
    b.connect name i port (some samples) =
      (b.fillBuffer name port samples).perform name i (.connectPort port (some ⟨name, port⟩)) :=
  rfl

theorem follow_release (hslot : b.slot? name = some i) :
    b.follow (.release name) = b.release name i := by
  simp only [follow, withSlot, hslot]

theorem numbers_putRack (b : Bench) (r : Rack) (m : Machine) :
    (b.putRack r m).racks.map Rack.number = b.racks.map Rack.number := by
  rw [putRack, List.map_map]
  refine List.map_congr_left fun old _ => ?_
  rw [Function.comp_apply]
  split
  · next heq => exact heq.symm
  · rfl

theorem hasRack_putRack : (b.putRack r m).HasRack n ↔ b.HasRack n := by
  have hmem : ∀ b : Bench, b.HasRack n ↔ n ∈ b.racks.map Rack.number :=
    fun b => List.mem_map.symm
  rw [hmem, hmem, numbers_putRack]

theorem rack?_eq_none (h : b.rack? n = none) : ¬ b.HasRack n := by
  rintro ⟨r, hr, hnumber⟩
  have hne := List.find?_eq_none.mp h r hr
  rw [hnumber] at hne
  exact hne (beq_self_eq_true n)

/-- A rack that is found stands among others, where another can be put in its place. -/
theorem rack?_eq_some (h : b.rack? n = some r) (hapart : (b.racks.map Rack.number).Nodup) :
    r.number = n ∧ ∃ others, b.racks.Perm (r :: others) ∧ (b.dropRack r).racks.Perm others ∧
      ∀ r' m, r'.number = r.number → (b.putRack r' m).racks.Perm (r' :: others) := by
  unfold rack? at h
  have hnumber : r.number = n := by simpa using List.find?_some h
  obtain ⟨front, back, heq⟩ := List.append_of_mem (List.mem_of_find?_eq_some h)
  have hperm : b.racks.Perm (r :: (front ++ back)) := heq ▸ List.perm_middle
  -- Numbers tell racks apart, so a filter or a map by number meets no other rack.
  have hne : ∀ q ∈ front ++ back, q.number ≠ r.number := by
    have hnodup := (hperm.map Rack.number).nodup_iff.mp hapart
    intro q hq hsame
    exact (List.nodup_cons.mp hnodup).1 (hsame ▸ List.mem_map.mpr ⟨q, hq, rfl⟩)
  refine ⟨hnumber, front ++ back, hperm, ?_, ?_⟩
  · have hrest : (front ++ back).filter (fun q => q.number != r.number) = front ++ back :=
      List.filter_eq_self.mpr fun q hq => bne_iff_ne.mpr (hne q hq)
    have hfiltered := hperm.filter fun q => q.number != r.number
    rw [List.filter_cons_of_neg (by simp), hrest] at hfiltered
    exact hfiltered
  · intro r' m hr'
    have hmapped := hperm.map fun old => if old.number = r'.number then r' else old
    rw [List.map_cons, if_pos hr'.symm] at hmapped
    refine hmapped.trans (.of_eq (congrArg (r' :: ·) ?_))
    refine (List.map_congr_left fun q hq => if_neg ?_).trans (List.map_id _)
    rw [hr']
    exact hne q hq

theorem slot?_eq_some (h : b.slot? name = some i) (hnames : (b.slots.map Prod.fst).Nodup) :
    b.slots.Perm ((name, i) :: (b.freeSlot name).slots) := by
  obtain ⟨front, back, heq, _⟩ := List.lookup_eq_some_iff.mp h
  have hperm : b.slots.Perm ((name, i) :: (front ++ back)) := heq ▸ List.perm_middle
  have hnodup := (hperm.map Prod.fst).nodup_iff.mp hnames
  have hrest : (front ++ back).filter (fun e => e.1 != name) = front ++ back := by
    refine List.filter_eq_self.mpr fun e he => bne_iff_ne.mpr fun hsame => ?_
    exact (List.nodup_cons.mp hnodup).1 (hsame ▸ List.mem_map.mpr ⟨e, he, rfl⟩)
  have hfiltered := hperm.filter fun e => e.1 != name
  rw [List.filter_cons_of_neg (by simp), hrest] at hfiltered
  exact hperm.trans (hfiltered.symm.cons _)

theorem slot?_eq_none (h : b.slot? name = none) : (b.freeSlot name).slots = b.slots := by
  refine List.filter_eq_self.mpr fun e he => ?_
  have hne := List.lookup_eq_none_iff.mp h e he
  rw [bne_comm]
  exact hne

theorem instances_perm (h : b.slot? name = some i) (hnames : (b.slots.map Prod.fst).Nodup) :
    b.instances.Perm (i :: (b.freeSlot name).instances) :=
  (slot?_eq_some h hnames).map Prod.snd

theorem mem_of_slot? (h : b.slot? name = some i) : i ∈ b.instances := by
  obtain ⟨front, back, heq, _⟩ := List.lookup_eq_some_iff.mp h
  exact List.mem_map.mpr ⟨(name, i), heq ▸ List.mem_append_right _ List.mem_cons_self, rfl⟩

theorem mem_freeSlot (hi : i ∈ (b.freeSlot name).instances) : i ∈ b.instances := by
  obtain ⟨e, he, rfl⟩ := List.mem_map.mp hi
  exact List.mem_map.mpr ⟨e, (List.mem_filter.mp he).1, rfl⟩

theorem names_freeSlot (name : String) (hnames : (b.slots.map Prod.fst).Nodup) :
    (((b.freeSlot name).slots).map Prod.fst).Nodup :=
  hnames.sublist (List.filter_sublist.map Prod.fst)

theorem names_putSlot (name : String) (i : Instance) (hnames : (b.slots.map Prod.fst).Nodup) :
    (((b.putSlot name i).slots).map Prod.fst).Nodup := by
  refine List.nodup_cons.mpr ⟨?_, names_freeSlot name hnames⟩
  intro hmem
  obtain ⟨e, he, hsame⟩ := List.mem_map.mp hmem
  have hne := (List.mem_filter.mp he).2
  rw [hsame, bne_self_eq_false] at hne
  cases hne

/-! ## One order -/

theorem slots_finish (b : Bench) (i : Instance) : (b.finish i).slots = b.slots := by
  unfold finish
  dsimp only
  split <;> rfl

/-- Ending an instance that has no name any more. -/
theorem finish_custody (c : Custody b.machine b.racks (i :: live) nobody nobody) :
    Custody (b.finish i).machine (b.finish i).racks live nobody nobody ∧
      AddsEnds (fun n => n = i.library ∧ b.HasRack i.rack)
        (fun n => n = i.library ∧ ¬ b.HasRack i.rack) b.journal (b.finish i).journal := by
  unfold finish
  dsimp only
  rcases hrack : b.rack? i.rack with _ | r
  · have hgone := rack?_eq_none hrack
    obtain ⟨c', hadds⟩ := c.finish_alone fun r hr heq => hgone ⟨r, hr, heq.symm⟩
    rw [show (⟨i.finish b.machine, b.racks, b.slots⟩ : Bench).rack? i.rack = none from hrack]
    refine ⟨c', hadds.mono (fun _ => False.elim) ?_⟩
    exact fun n hn => ⟨hn, hgone⟩
  · obtain ⟨hnumber, others, hperm, _, hput⟩ := rack?_eq_some hrack c.racks_apart
    rw [show (⟨i.finish b.machine, b.racks, b.slots⟩ : Bench).rack? i.rack = some r from hrack]
    have hthere : b.HasRack i.rack := ⟨r, hperm.mem_iff.mpr List.mem_cons_self, hnumber⟩
    obtain ⟨hreleased, c', hadds⟩ := (c.perm hperm (.refl _)).finish hnumber.symm
    refine ⟨c'.perm (hput _ _ hreleased).symm (.refl _), hadds.mono ?_ fun _ => False.elim⟩
    exact fun n hn => ⟨hn, hthere⟩

/-- What ends with an instance could end. -/
theorem adds_of_finish {j j' : Journal} (c : Custody m b.racks b.instances nobody nobody)
    (hi : i ∈ b.instances)
    (hadds : AddsEnds (fun n => n = i.library ∧ b.HasRack i.rack)
      (fun n => n = i.library ∧ ¬ b.HasRack i.rack) j j') :
    AddsEnds b.MayClose b.MayDrop j j' := by
  refine hadds.mono ?_ ?_
  · rintro n ⟨rfl, r, hr, hrack⟩ k hk hlibrary
    exact ⟨r, hr, (c.same_rack hr hi hrack.symm hk hlibrary).symm⟩
  · rintro n ⟨rfl, hgone⟩
    exact ⟨i, hi, rfl, hgone⟩

theorem sound_release (hb : b.Sound) (hslot : b.slot? name = some i) :
    (b.release name i).Sound ∧
      AddsEnds b.MayClose b.MayDrop b.journal (b.release name i).journal := by
  have hperm := instances_perm hslot hb.names
  obtain ⟨c, hadds⟩ :=
    finish_custody (b := b.freeSlot name) (hb.custody.perm (.refl _) hperm)
  refine ⟨⟨?_, ?_⟩, ?_⟩
  · unfold instances release
    rw [slots_finish]
    exact c
  · unfold release
    rw [slots_finish]
    exact names_freeSlot name hb.names
  · exact adds_of_finish hb.custody (hperm.mem_iff.mpr List.mem_cons_self) hadds

/-- An instance is made in the place of one that had its name. -/
theorem sound_replace (hb : b.Sound) (hrack : b.rack? n = some r) {id : Identifier}
    {rate : Single} {r' : Rack} {m' : Machine}
    (hmade : r.instantiate id rate b.machine = (.ok i, r', m')) {old : Instance}
    (hslot : b.slot? name = some old) :
    let made := (b.putRack r' m').putSlot name i
    (made.finish old).Sound ∧
      AddsEnds b.MayClose b.MayDrop made.journal (made.finish old).journal := by
  obtain ⟨_, others, hperm, _, hput⟩ := rack?_eq_some hrack hb.custody.racks_apart
  obtain ⟨hr', c, _⟩ := (hb.custody.perm hperm (.refl _)).instantiate_ok hmade
  have hold := instances_perm hslot hb.names
  -- The old instance ends after the new one is made, so in between both of them live.
  have c' := c.perm (hput r' m' hr').symm ((hold.cons i).trans (.swap old i _))
  obtain ⟨c'', hended⟩ := finish_custody (b := (b.putRack r' m').putSlot name i) c'
  have hracks : ∀ k, ((b.putRack r' m').putSlot name i).HasRack k ↔ b.HasRack k :=
    fun k => @hasRack_putRack b r' m' k
  refine ⟨⟨?_, ?_⟩, ?_⟩
  · unfold instances
    rw [slots_finish]
    exact c''
  · rw [slots_finish]
    exact names_putSlot name i hb.names
  · refine adds_of_finish hb.custody (hold.mem_iff.mpr List.mem_cons_self) (hended.mono ?_ ?_)
    · rintro k ⟨rfl, hwhere⟩
      exact ⟨rfl, (hracks _).mp hwhere⟩
    · rintro k ⟨rfl, hwhere⟩
      exact ⟨rfl, fun hthere => hwhere ((hracks _).mpr hthere)⟩

/-- Making an instance under a name, where the one that had the name is ended. -/
theorem sound_instantiate (hb : b.Sound) (hrack : b.rack? n = some r) (id : Identifier)
    (rate : Single) (name : String) :
    (b.instantiate r id rate name).2.Sound ∧
      AddsEnds b.MayClose b.MayDrop b.journal (b.instantiate r id rate name).2.journal := by
  obtain ⟨_, others, hperm, _, hput⟩ := rack?_eq_some hrack hb.custody.racks_apart
  have c := hb.custody.perm hperm (.refl _)
  unfold instantiate
  rcases hmade : r.instantiate id rate b.machine with ⟨e | i, r', m'⟩
  · obtain ⟨hr', c', hadds⟩ := c.instantiate_error hmade
    refine ⟨⟨c'.perm (hput r' m' hr').symm (.refl _), hb.names⟩, ?_⟩
    refine hadds.mono ?_ fun _ => False.elim
    intro k hk j hj hlibrary
    rw [hk j hj hlibrary]
    exact ⟨r, hperm.mem_iff.mpr List.mem_cons_self, rfl⟩
  · obtain ⟨hr', c', hadds⟩ := c.instantiate_ok hmade
    dsimp only
    rcases hslot : b.slot? name with _ | old
    · refine ⟨⟨?_, names_putSlot name i hb.names⟩, hadds.of_none⟩
      have hsame : ((b.putRack r' m').putSlot name i).instances = i :: b.instances :=
        congrArg (fun slots : List (String × Instance) => i :: slots.map Prod.snd)
          (slot?_eq_none hslot)
      rw [hsame]
      exact c'.perm (hput r' m' hr').symm (.refl _)
    · obtain ⟨hreplaced, hended⟩ := sound_replace hb hrack hmade hslot
      exact ⟨hreplaced, hadds.of_none.trans hended⟩

theorem sound_perform (hb : b.Sound) (hslot : b.slot? name = some i) (op : Operation) :
    (b.perform name i op).2.Sound ∧
      AddsEnds b.MayClose b.MayDrop b.journal (b.perform name i op).2.journal := by
  have hperm := instances_perm hslot hb.names
  obtain ⟨c, hadds⟩ := (hb.custody.perm (.refl _) hperm).perform op
  exact ⟨⟨c, names_putSlot name _ hb.names⟩, hadds.of_none⟩

/-- Where only buffers, files or sources of libraries change, everything stays. -/
theorem Sound.withMachine (hb : b.Sound) (hopened : m.linker.opened = b.machine.linker.opened)
    (hlinker : m.linker.next = b.machine.linker.next) (hjournal : m.journal = b.journal)
    (hnext : m.next = b.machine.next) : { b with machine := m }.Sound where
  custody := by
    have hadds : AddsEnds noNumber noNumber b.journal m.journal := by
      rw [hjournal]
      exact adds_refl _ _
    exact hb.custody.withMachine (hb.custody.linker.transfer hopened hlinker hjournal)
      (Nat.le_of_eq hnext.symm) hadds
  names := hb.names

theorem sound_connect (hb : b.Sound) (hslot : b.slot? name = some i) (port : Nat)
    (samples : Option (List Single)) :
    (b.connect name i port samples).2.Sound ∧
      AddsEnds b.MayClose b.MayDrop b.journal (b.connect name i port samples).2.journal := by
  cases samples with
  | none =>
    rw [connect_none]
    exact sound_perform hb hslot _
  | some xs =>
    have hfilled : (b.fillBuffer name port xs).Sound := hb.withMachine rfl rfl rfl rfl
    rw [connect_some]
    exact sound_perform hfilled hslot _

theorem sound_dropRack (hb : b.Sound) (hrack : b.rack? n = some r) :
    (b.dropRack r).Sound ∧ AddsEnds noNumber noNumber b.journal (b.dropRack r).journal := by
  obtain ⟨_, others, hperm, hdropped, _⟩ := rack?_eq_some hrack hb.custody.racks_apart
  obtain ⟨c, hadds⟩ := (hb.custody.perm hperm (.refl _)).discard
  exact ⟨⟨c.perm hdropped.symm (.refl _), hb.names⟩, hadds⟩

theorem sound_addRack (hb : b.Sound) (kind : PluginKind) (searchPath : List Path) :
    (b.addRack kind searchPath).Sound where
  custody := (hb.custody.addRack kind searchPath).perm (List.perm_append_singleton _ _).symm
    (.refl _)
  names := hb.names

/-- A rack that is put in its own place changes no other. -/
theorem Sound.putRack_self (hb : b.Sound) (hrack : b.rack? n = some r) (m : Machine) :
    b.putRack r m = { b with machine := m } := by
  obtain ⟨_, others, hperm, _, _⟩ := rack?_eq_some hrack hb.custody.racks_apart
  have hr : r ∈ b.racks := hperm.mem_iff.mpr List.mem_cons_self
  have hracks : b.racks.map (fun old => if old.number = r.number then r else old) = b.racks := by
    refine (List.map_congr_left fun q hq => ?_).trans (List.map_id _)
    split
    · next hsame => exact (List.inj_on_of_nodup_map hb.custody.racks_apart hq hr hsame).symm
    · rfl
  unfold putRack
  rw [hracks]

/-- Closing the unused libraries of a rack changes nothing, since there are none. -/
theorem unloadUnused_eq (hb : b.Sound) (hrack : b.rack? n = some r) :
    r.unloadUnused b.machine = (0, r, b.machine) ∧ b.putRack r b.machine = b := by
  obtain ⟨_, others, hperm, _, _⟩ := rack?_eq_some hrack hb.custody.racks_apart
  have hr : r ∈ b.racks := hperm.mem_iff.mpr List.mem_cons_self
  exact ⟨(hb.custody.sound r hr).unloadUnused _, hb.putRack_self hrack _⟩

/-! ## All orders -/

/-- One order keeps everything in agreement, and ends a library only as it may. -/
theorem sound_follow (hb : b.Sound) (order : Order) :
    (b.follow order).Sound ∧ AddsEnds b.MayClose b.MayDrop b.journal (b.follow order).journal := by
  let Fine (b' : Bench) : Prop := b'.Sound ∧ AddsEnds b.MayClose b.MayDrop b.journal b'.journal
  have hnothing : Fine b := ⟨hb, adds_refl _ _⟩
  -- A case for each order: a rack or an instance that is not there makes it do nothing.
  cases order with
  | addRack kind searchPath => exact ⟨sound_addRack hb kind searchPath, adds_refl _ _⟩
  | dropRack n =>
    refine withRack_of (P := Fine) hnothing fun r hrack => ?_
    obtain ⟨hdropped, hadds⟩ := sound_dropRack hb hrack
    exact ⟨hdropped, hadds.of_none⟩
  | unloadUnused n =>
    refine withRack_of (P := Fine) hnothing fun r hrack => ?_
    obtain ⟨hunused, hput⟩ := unloadUnused_eq hb hrack
    simp only [hunused, hput]
    exact hnothing
  | instantiate n id rate name =>
    exact withRack_of (P := Fine) hnothing fun r hrack => sound_instantiate hb hrack id rate name
  | perform name op =>
    exact withSlot_of (P := Fine) hnothing fun i hslot => sound_perform hb hslot op
  | connect name port samples =>
    exact withSlot_of (P := Fine) hnothing fun i hslot => sound_connect hb hslot port samples
  | release name =>
    exact withSlot_of (P := Fine) hnothing fun i hslot => sound_release hb hslot
  | files t => exact ⟨hb.withMachine rfl rfl rfl rfl, adds_refl _ _⟩
  | register p s => exact ⟨hb.withMachine rfl rfl rfl rfl, adds_refl _ _⟩

theorem sound_run (hb : b.Sound) (orders : List Order) : (b.run orders).Sound := by
  -- From the front, over all benches to start with.
  induction orders generalizing b with
  | nil => exact hb
  | cons order orders ih => exact ih (sound_follow hb order).1

/-! ## A small bench -/

/-- A bench where each library has the specimen analysers and one file is there, after orders. -/
def trial (orders : List Order) : Bench :=
  (empty ⟨[([['l']], .file (.bytes []) false)]⟩ [] (.specimen .analysers)).run orders

/-- A rack is added. -/
def rackAdded : List Order := [.addRack .vamp []]

/-- An analyser of a label is asked for and put under a name. -/
def asked (label name : String) : Order := .instantiate 0 ⟨.vamp, "l", label⟩ .one name

/-- A tracker is made. -/
def trackerMade : List Order := rackAdded ++ [asked "tempo" "x"]

end Bench

end AudioHost
