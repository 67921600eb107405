import AudioHost.Proofs.Host.Scanning
import AudioHost.Proofs.Rack.Calls

/-!
What can be asked of a host, in any order. The bench that it works at may have racks of others, and
files and libraries change meanwhile; but the host keeps the racks that it started with.
-/

namespace AudioHost

/-- One thing that is asked of a host, or that happens around it. -/
inductive HostOrder where
  | scan
  | instantiate (id : Identifier) (rate : Single) (name : String)
  /-- Something that is asked of the bench that the host works at. -/
  | bench (order : Order)

/-- The files are others after an order, or what was put at paths. -/
def HostOrder.Changes : HostOrder → Prop
  | .bench order => order.Changes
  | _ => False

/-- An order would give up a rack that a host started with. -/
def Order.takesOwn : Order → Bool
  | .dropRack n => n < PluginKind.all.length
  | _ => false

namespace Host

variable {h h' : Host} {kind : PluginKind} {order : HostOrder} {orders : List HostOrder}

/-- Follows an order. The racks that a host started with are its own, and nobody else gives them
up. -/
def follow (h : Host) : HostOrder → Host
  | .scan => h.scan.2
  | .instantiate id rate name => (h.instantiate id rate name).2
  | .bench order => if order.takesOwn then h else { h with bench := h.bench.follow order }

/-- Follows orders one after the other. -/
def run (h : Host) (orders : List HostOrder) : Host := orders.foldl follow h

/-- A host that has scanned nothing, on a machine that has opened nothing. -/
def fresh (scanner : Scanner) (index : Option SemanticIndex) (files : FileTree)
    (sources : List (Path × LibrarySource)) (elsewhere : LibrarySource) : Host :=
  start scanner index (.start files (.start sources elsewhere))

/-! ## The invariant -/

/-- The number of the rack that a host has for a kind from the start. -/
def rackNumber : PluginKind → Nat
  | .ladspa => 0
  | .vamp => 1

/-- A host can scan, its bench is in order, and it has its own racks. -/
structure Sound (h : Host) : Prop where
  probes : h.scanner.probes ≠ []
  checks : ∀ q ∈ h.scanner.probes, q.ChecksOnly
  bench : h.bench.Sound
  racks : ∀ kind, h.bench.HasRackOf (rackNumber kind) kind

theorem sound_fresh {scanner : Scanner} (hprobes : scanner.probes ≠ [])
    (hchecks : ∀ q ∈ scanner.probes, q.ChecksOnly) (index : Option SemanticIndex)
    (files : FileTree) (sources : List (Path × LibrarySource)) (elsewhere : LibrarySource) :
    (fresh scanner index files sources elsewhere).Sound where
  probes := hprobes
  checks := hchecks
  bench := Bench.sound_addRack (Bench.sound_addRack (Bench.sound_empty files sources elsewhere) _ _)
    _ _
  racks := by
    intro kind
    cases kind with
    | ladspa => exact ⟨_, List.mem_cons_self, rfl, rfl⟩
    | vamp => exact ⟨_, List.mem_cons_of_mem _ List.mem_cons_self, rfl, rfl⟩

theorem Sound.rack? (hh : h.Sound) (kind : PluginKind) :
    ∃ r, h.rack? kind = some r ∧ r.kind = kind ∧ h.bench.rack? r.number = some r := by
  obtain ⟨q, hq, _, hkind⟩ := hh.racks kind
  have hsome : (h.rack? kind).isSome :=
    List.find?_isSome.mpr ⟨q, hq, by simpa using hkind⟩
  obtain ⟨r, hr⟩ := Option.isSome_iff_exists.mp hsome
  refine ⟨r, hr, by simpa using List.find?_some hr, ?_⟩
  exact Bench.rack?_of_mem hh.bench.custody.racks_apart (List.mem_of_find?_eq_some hr)

/-- The bench follows every order but a scan. -/
theorem Sound.follow_eq (hh : h.Sound) (order : HostOrder) :
    order = .scan ∨ h.follow order = h ∨
      ∃ o : Order, h.follow order = { h with bench := h.bench.follow o } ∧
        (∀ kind, o ≠ .dropRack (rackNumber kind)) ∧ (o.Changes → order.Changes) := by
  cases order with
  | scan => exact Or.inl rfl
  | instantiate id rate name =>
    obtain ⟨r, hrack, _, hnumber⟩ := hh.rack? id.kind
    refine Or.inr (Or.inr ⟨.instantiate r.number id rate name, ?_, fun kind => nofun, nofun⟩)
    rw [Bench.follow_instantiate hnumber]
    simp only [follow, Host.instantiate, hrack]
  | bench o =>
    by_cases hown : o.takesOwn
    · exact Or.inr (Or.inl (if_pos hown))
    · refine Or.inr (Or.inr ⟨o, if_neg hown, ?_, id⟩)
      rintro kind rfl
      exact hown (by cases kind <;> decide)

theorem sound_follow (hh : h.Sound) (order : HostOrder) : (h.follow order).Sound := by
  obtain rfl | hsame | ⟨o, hfollow, hkept, _⟩ := hh.follow_eq order
  · obtain ⟨hscanner, hbench, hracks⟩ := sound_scan hh.checks hh.bench
    change h.scan.2.Sound
    refine ⟨hscanner ▸ hh.probes, hscanner ▸ hh.checks, hbench, fun kind => ?_⟩
    obtain ⟨r, hr, hboth⟩ := hh.racks kind
    exact ⟨r, hracks ▸ hr, hboth⟩
  · rw [hsame]
    exact hh
  · rw [hfollow]
    exact ⟨hh.probes, hh.checks, (Bench.sound_follow hh.bench o).1,
      fun kind => (hh.racks kind).follow hh.bench (hkept kind)⟩

theorem scanner_follow (hh : h.Sound) (order : HostOrder) :
    (h.follow order).scanner = h.scanner := by
  obtain rfl | hsame | ⟨o, hfollow, _⟩ := hh.follow_eq order
  · exact (sound_scan hh.checks hh.bench).1
  · rw [hsame]
  · rw [hfollow]

/-- No checker changes the files that are there. -/
def Leaves (h : Host) : Prop := ∀ q ∈ h.scanner.probes, q.Leaves h.machine.files

theorem GoesOn.leaves (hg : GoesOn h h') (hl : h.Leaves) : h'.Leaves := by
  unfold Leaves
  rw [hg.scanner, hg.files]
  exact hl

/-- A host goes on in an order that changes neither files nor libraries, and what it lists stays
copied. -/
theorem goesOn_follow (hh : h.Sound) (hleaves : h.Leaves) (hkeeps : ¬ order.Changes) :
    h.GoesOn (h.follow order) ∧ ∀ kind, h.Lists kind → (h.follow order).Lists kind := by
  obtain rfl | hsame | ⟨o, hfollow, _, hchanges⟩ := hh.follow_eq order
  · obtain ⟨hgoes, hlists⟩ := lists_scan hh.probes hh.checks hleaves hh.bench
    exact ⟨hgoes, fun kind _ => hlists kind⟩
  · rw [hsame]
    exact ⟨goesOn_refl h, fun _ hl => hl⟩
  · have hgoes : h.GoesOn (h.follow order) := by
      rw [hfollow]
      exact ⟨rfl, rfl, Bench.goesOn_follow hh.bench fun hchanged => hkeeps (hchanges hchanged)⟩
    refine ⟨hgoes, fun kind hl => hl.goesOn hgoes ?_⟩
    rw [hfollow]

/-! ## All orders -/

theorem sound_run (hh : h.Sound) (orders : List HostOrder) : (h.run orders).Sound := by
  induction orders generalizing h with
  | nil => exact hh
  | cons order orders ih => exact ih (sound_follow hh order)

theorem scanner_run (hh : h.Sound) (orders : List HostOrder) :
    (h.run orders).scanner = h.scanner := by
  induction orders generalizing h with
  | nil => rfl
  | cons order orders ih => exact (ih (sound_follow hh order)).trans (scanner_follow hh order)

theorem goesOn_run (hh : h.Sound) (hleaves : h.Leaves)
    (hkeep : ∀ order ∈ orders, ¬ order.Changes) :
    h.GoesOn (h.run orders) ∧ ∀ kind, h.Lists kind → (h.run orders).Lists kind := by
  induction orders generalizing h with
  | nil => exact ⟨goesOn_refl h, fun _ hl => hl⟩
  | cons order orders ih =>
    obtain ⟨hfirst, hrest⟩ := List.forall_mem_cons.mp hkeep
    obtain ⟨hgoes, hlists⟩ := goesOn_follow hh hleaves hfirst
    obtain ⟨hgoes', hlists'⟩ := ih (sound_follow hh order) (hgoes.leaves hleaves) hrest
    exact ⟨hgoes.trans hgoes', fun kind hl => hlists' kind (hlists kind hl)⟩

/-- After a scan, all plugins that are listed have records that were copied, whatever else was
asked for before and after it. -/
theorem lists_run (hh : h.Sound) (hleaves : h.Leaves)
    (hkeep : ∀ order ∈ orders, ¬ order.Changes) (hscan : .scan ∈ orders) (kind : PluginKind) :
    (h.run orders).Lists kind := by
  induction orders generalizing h with
  | nil => cases hscan
  | cons order orders ih =>
    obtain ⟨hfirst, hrest⟩ := List.forall_mem_cons.mp hkeep
    have hgoes := (goesOn_follow hh hleaves hfirst).1
    -- What a scan lists stays copied, and what comes before a scan does not matter.
    rcases List.mem_cons.mp hscan with rfl | hscan
    · have hlists : (h.follow .scan).Lists kind :=
        (lists_scan hh.probes hh.checks hleaves hh.bench).2 kind
      exact (goesOn_run (sound_follow hh .scan) (hgoes.leaves hleaves) hrest).2 kind hlists
    · exact ih (sound_follow hh order) (hgoes.leaves hleaves) hrest hscan

end Host

end AudioHost
