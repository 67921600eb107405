import AudioHost.Host.Basic
import AudioHost.Proofs.Discovery.Checking
import AudioHost.Proofs.Discovery.Copies
import AudioHost.Proofs.Discovery.Listing
import AudioHost.Proofs.Rack.Current
import AudioHost.Proofs.Rack.Staying

/-!
What a host knows after a scan. Each plugin that it lists has a record that was copied from an entry
of the library that the plugin names; and nothing that was open before is touched.
-/

namespace AudioHost

theorem Taxonomy.identifier_apply (t : Taxonomy) (r : Record) :
    (t.apply r).identifier = r.identifier := by
  unfold apply
  dsimp only
  split <;> rfl

/-- A record that was found is known with its category, if no two records have one name. -/
theorem Registry.record?_ofScan (t : Taxonomy) {records : List Record} {r : Record}
    (hapart : (records.map Record.identifier).Nodup) (hr : r ∈ records) (ids : List Identifier) :
    (ofScan ids (records.map t.apply)).record? r.identifier = some (t.apply r) := by
  have hnames : (records.map t.apply).map Record.identifier = records.map Record.identifier := by
    rw [List.map_map]
    exact List.map_congr_left fun r _ => t.identifier_apply r
  have hmem : t.apply r ∈ (records.map t.apply).reverse :=
    List.mem_reverse.mpr (List.mem_map.mpr ⟨r, hr, rfl⟩)
  have hreversed : ((records.map t.apply).reverse.map Record.identifier).Nodup := by
    rw [List.map_reverse, hnames]
    exact List.nodup_reverse.mpr hapart
  rw [← t.identifier_apply r]
  exact find?_of_nodup hreversed hmem

/-- No two candidates have one name. -/
theorem Scanner.nodup_candidates (s : Scanner) (kind : PluginKind) (m : Machine) :
    ((s.scan kind m).1.candidates.map fun c => c.path.text).Nodup := by
  have hpaths := (Candidates.nodup_of_apart (Candidates.apart_ofPattern m.files
    (s.directories kind) (s.settings.globFor kind))).sublist (s.sublist_candidates kind m)
  have htexts := hpaths.map fun p q h => congrArg Path.mk h
  rwa [List.map_map] at htexts

namespace Host

variable {h h' h'' : Host} {kind : PluginKind} {id : Identifier} {d : Descriptor}

/-- The record of a plugin is copied from a descriptor. That is an entry of the library that the
plugin names, which is listed, and the only one of its label. -/
structure Copied (h : Host) (id : Identifier) (d : Descriptor) : Prop where
  listed : ⟨id.library⟩ ∈ h.scanner.listed h.machine.files id.kind
  entry : ∃ k, h.machine.HasEntry id.kind ⟨id.library⟩ k d
  label : d.label = id.label
  record : ∃ record, d.record ⟨id.library⟩ = .ok record ∧ record.identifier = id ∧
    h.descriptor? id = some ((h.taxonomyFor id.kind).apply record)

/-- All plugins that a host lists for a kind are of the kind, and have records that were copied. -/
def Lists (h : Host) (kind : PluginKind) : Prop :=
  ∀ id ∈ h.identifiers kind, id.kind = kind ∧ ∃ d, h.Copied id d

/-! ## Going on -/

/-- A host goes on: it keeps its settings, and its bench goes on. -/
structure GoesOn (h h' : Host) : Prop where
  scanner : h'.scanner = h.scanner
  index : h'.index = h.index
  bench : h.bench.GoesOn h'.bench

theorem goesOn_refl (h : Host) : GoesOn h h := ⟨rfl, rfl, Bench.goesOn_refl _⟩

theorem GoesOn.trans (hg : GoesOn h h') (hg' : GoesOn h' h'') : GoesOn h h'' :=
  ⟨hg'.scanner.trans hg.scanner, hg'.index.trans hg.index, hg.bench.trans hg'.bench⟩

theorem GoesOn.files (hg : GoesOn h h') : h'.machine.files = h.machine.files :=
  hg.bench.keeps.files

theorem GoesOn.taxonomyFor (hg : GoesOn h h') (kind : PluginKind) :
    h'.taxonomyFor kind = h.taxonomyFor kind := by
  unfold Host.taxonomyFor
  rw [hg.scanner, hg.index, hg.files]

/-- What a host lists stays copied while it goes on and does not scan again. -/
theorem Lists.goesOn (hl : h.Lists kind) (hg : GoesOn h h')
    (hregistry : h'.registries kind = h.registries kind) : h'.Lists kind := by
  intro id hid
  unfold identifiers at hid
  rw [hregistry] at hid
  obtain ⟨rfl, d, hcopied⟩ := hl id hid
  refine ⟨rfl, d, ?_, ?_, hcopied.label, ?_⟩
  · rw [hg.scanner, hg.files]
    exact hcopied.listed
  · obtain ⟨k, hentry⟩ := hcopied.entry
    exact ⟨k, hg.bench.keeps.hasEntry' hentry⟩
  · obtain ⟨record, hrecord, hid, hknown⟩ := hcopied.record
    refine ⟨record, hrecord, hid, ?_⟩
    unfold descriptor? at hknown ⊢
    rw [hregistry, hg.taxonomyFor]
    exact hknown

/-! ## Scanning for one kind -/

/-- What scanning for a kind leaves of a host. The machine has some property afterwards, and only
what is known of the kind changes. -/
structure Scanned (P : Machine → Prop) (kind : PluginKind) (h h' : Host) : Prop where
  scanner : h'.scanner = h.scanner
  index : h'.index = h.index
  bench : ∃ m, P m ∧ h'.bench = { h.bench with machine := m }
  others : ∀ k, k ≠ kind → h'.registries k = h.registries k

/-- What checking libraries keeps, scanning for a kind keeps. -/
theorem scanned_scanKind {P : Machine → Prop} {l : TableLoader Machine}
    (hl : ∀ symbol p m, P m → P (l.check symbol p m).2)
    (hprobes : ∀ q ∈ h.scanner.probes, q.Preserves P) (hm : P h.machine) (kind : PluginKind)
    (r : ScanReport) : Scanned P kind h (scanKind l kind h r).2 := by
  have hscanned : P (h.scanner.scan kind h.machine).2 := Scanner.preserves_scan hprobes kind hm
  unfold scanKind
  dsimp only
  split
  · refine ⟨rfl, rfl, ⟨_, hscanned, rfl⟩, fun k hk => ?_⟩
    simp only [setState, setRegistry, onMachine, if_neg hk]
  · have hfound := Enumeration.preserves_ofLoader (hl kind.symbol)
      (h.scanner.scan kind h.machine).1.candidates hscanned
    refine ⟨rfl, rfl, ⟨_, hfound, rfl⟩, fun k hk => ?_⟩
    simp only [enumerate, setState, setRegistry, onMachine, if_neg hk]

theorem probed_scan (hchecks : ∀ q ∈ h.scanner.probes, q.ChecksOnly) (kind : PluginKind) :
    Machine.Probed h.machine (h.scanner.scan kind h.machine).2 :=
  Scanner.preserves_scan (fun q hq => hchecks q hq h.machine) kind .nothing

theorem probed_scanKind (hchecks : ∀ q ∈ h.scanner.probes, q.ChecksOnly) (kind : PluginKind)
    (r : ScanReport) :
    Scanned (Machine.Probed h.machine) kind h (scanKind Machine.tableLoader kind h r).2 :=
  scanned_scanKind (fun symbol p _ hm => .check hm symbol p)
    (fun q hq => hchecks q hq h.machine) .nothing kind r

theorem sound_withMachine {m : Machine} (hb : h.bench.Sound) (hm : Machine.Probed h.machine m) :
    ({ h.bench with machine := m } : Bench).Sound := by
  obtain ⟨hspares, hlinker⟩ := hm.spares hb.custody.linker
  exact ⟨hb.custody.withMachine hlinker (Nat.le_of_eq hspares.next.symm) hspares.adds, hb.names⟩

theorem Scanned.sound (hs : Scanned (Machine.Probed h.machine) kind h h') (hb : h.bench.Sound) :
    h'.bench.Sound := by
  obtain ⟨m, hprobed, hbench⟩ := hs.bench
  rw [hbench]
  exact sound_withMachine hb hprobed

theorem Scanned.goesOn (hs : Scanned (Machine.Probed h.machine) kind h h') (hb : h.bench.Sound)
    (hfiles : h'.machine.files = h.machine.files) : GoesOn h h' := by
  obtain ⟨m, hprobed, hbench⟩ := hs.bench
  refine ⟨hs.scanner, hs.index, ?_⟩
  have hsame : m.files = h.machine.files := by
    rw [machine, hbench] at hfiles
    exact hfiles
  rw [hbench]
  exact Bench.goesOn_withMachine ((hprobed.spares hb.custody.linker).1.keeps hsame)

theorem files_scanKind (hleaves : ∀ q ∈ h.scanner.probes, q.Leaves h.machine.files)
    (kind : PluginKind) (r : ScanReport) :
    (scanKind Machine.tableLoader kind h r).2.machine.files = h.machine.files := by
  obtain ⟨m, hfiles, hbench⟩ := (scanned_scanKind (l := Machine.tableLoader)
    (fun symbol p m hm => (Machine.files_check m symbol p).trans hm) hleaves rfl kind r).bench
  rw [machine, hbench]
  exact hfiles

/-- What a host finds on its machine when it scans for a kind. -/
def found (h : Host) (kind : PluginKind) : Enumeration × Machine :=
  let (s, m) := h.scanner.scan kind h.machine
  Enumeration.ofCandidates kind s.candidates m

/-- With checkers, a scan for a kind opens the candidates. -/
theorem scanKind_enumerates (l : TableLoader Machine) (hprobes : h.scanner.probes ≠ [])
    (kind : PluginKind) (r : ScanReport) :
    let scanned := h.scanner.scan kind h.machine
    scanKind l kind h r = ((h.setState kind .scanning).onMachine scanned.2).enumerate l kind
      scanned.1.candidates (addScan r scanned.1) := by
  intro scanned
  have hsome : h.scanner.probes.isEmpty = false := by simpa using hprobes
  unfold scanKind
  exact if_neg (Bool.eq_false_iff.mp hsome)

theorem scanKind_eq (hprobes : h.scanner.probes ≠ []) (kind : PluginKind) (r : ScanReport) :
    let h' := (scanKind Machine.tableLoader kind h r).2
    h'.machine = (h.found kind).2 ∧ h'.registries kind = .ofScan (h.found kind).1.identifiers
      ((h.found kind).1.records.map (h'.taxonomyFor kind).apply) := by
  rw [scanKind_enumerates Machine.tableLoader hprobes]
  exact ⟨rfl, if_pos rfl⟩

/-- The plugins that are found have different names of the kind. -/
theorem named_found (h : Host) (kind : PluginKind) :
    (h.found kind).1.identifiers = (h.found kind).1.records.map Record.identifier ∧
      (h.found kind).1.identifiers.Nodup ∧
      ∀ id ∈ (h.found kind).1.identifiers, id.kind = kind := by
  obtain ⟨parts, hall, hfound⟩ := Enumeration.contributeAll_ofLoader Machine.tableLoader kind
    (h.scanner.scan kind h.machine).1.candidates (h.scanner.scan kind h.machine).2
  have hgathered : (h.found kind).1 = Enumeration.gathered parts := hfound
  rw [hgathered]
  exact ⟨Enumeration.identifiers_gathered hall.named,
    Enumeration.nodup_gathered hall.named (h.scanner.nodup_candidates kind h.machine),
    fun id hid => (Enumeration.named_of_mem hall.named hid).1⟩

/-- What is found is copied from an entry of a library that is listed. -/
theorem copied_found (hchecks : ∀ q ∈ h.scanner.probes, q.ChecksOnly) (hb : h.bench.Sound)
    {record : Record} (hrecord : record ∈ (h.found kind).1.records) :
    ⟨record.identifier.library⟩ ∈ h.scanner.listed h.machine.files kind ∧
      ∃ k d, (h.found kind).2.HasEntry kind ⟨record.identifier.library⟩ k d ∧
        d.record ⟨record.identifier.library⟩ = .ok record := by
  obtain ⟨_, hlinker⟩ := (probed_scan hchecks kind).spares hb.custody.linker
  obtain ⟨c, hc, k, d, hentry, hcopied⟩ := Enumeration.hasEntry_of_mem hlinker hrecord
  have hkeeps := ((Enumeration.probed_ofCandidates kind
    (h.scanner.scan kind h.machine).1.candidates _).spares hlinker).1.keeps
      (Enumeration.files_ofCandidates _ _ _)
  have hlibrary : (⟨record.identifier.library⟩ : Path) = c.path := by
    rw [(Descriptor.sound_of_record hcopied).2]
  rw [hlibrary]
  exact ⟨(h.scanner.sublist_candidates kind h.machine).subset (List.mem_map.mpr ⟨c, hc, rfl⟩),
    k, d, hkeeps.hasEntry' hentry, hcopied⟩

/-- What is listed after scanning for a kind was just found. -/
theorem lists_scanKind (hprobes : h.scanner.probes ≠ [])
    (hchecks : ∀ q ∈ h.scanner.probes, q.ChecksOnly)
    (hleaves : ∀ q ∈ h.scanner.probes, q.Leaves h.machine.files) (hb : h.bench.Sound)
    (kind : PluginKind) (r : ScanReport) :
    (scanKind Machine.tableLoader kind h r).2.Lists kind := by
  have hgoes := (probed_scanKind hchecks kind r).goesOn hb (files_scanKind hleaves kind r)
  obtain ⟨hmachine, hregistry⟩ := scanKind_eq hprobes kind r
  obtain ⟨hnames, hapart, hkinds⟩ := named_found h kind
  generalize (scanKind Machine.tableLoader kind h r).2 = h' at *
  intro id hid
  unfold identifiers at hid
  rw [hregistry] at hid
  obtain rfl := hkinds id hid
  have hmem := hid
  change id ∈ (h.found id.kind).1.identifiers at hmem
  rw [hnames] at hmem
  obtain ⟨record, hrecord, rfl⟩ := List.mem_map.mp hmem
  obtain ⟨hlisted, k, d, hentry, hcopied⟩ := copied_found hchecks hb hrecord
  have hlabel : d.label = record.identifier.label :=
    (congrArg Identifier.label (Descriptor.sound_of_record hcopied).2).symm
  refine ⟨rfl, d, ?_, ⟨k, hmachine ▸ hentry⟩, hlabel, record, hcopied, rfl, ?_⟩
  · rw [hgoes.scanner, hgoes.files]
    exact hlisted
  · rw [descriptor?, hregistry]
    exact Registry.record?_ofScan _ (hnames ▸ hapart) hrecord _

/-! ## Scanning for every kind -/

/-- A scan is a scan for each kind, and then the report is kept. -/
theorem scanWith_eq (h : Host) (l : TableLoader Machine) :
    let first := scanKind l .ladspa h .begun
    let second := scanKind l .vamp first.2 first.1
    let r := { second.1 with finished := true }
    h.scanWith l = (r, { second.2 with lastReport := some r }) := by
  dsimp only
  unfold scanWith PluginKind.all
  rw [List.foldl_cons, List.foldl_cons, List.foldl_nil]

theorem scan_eq (h : Host) : ∃ r report, h.scan.2 =
    { (scanKind Machine.tableLoader .vamp
      (scanKind Machine.tableLoader .ladspa h .begun).2 r).2 with lastReport := report } := by
  refine ⟨(scanKind Machine.tableLoader .ladspa h .begun).1, ?_⟩
  rw [scan, scanWith_eq]
  exact ⟨_, rfl⟩

/-- What checking libraries keeps, a scan keeps, and of the bench it changes nothing but the
machine. -/
theorem scanned_scanWith {P : Machine → Prop} {l : TableLoader Machine}
    (hl : ∀ symbol p m, P m → P (l.check symbol p m).2)
    (hprobes : ∀ q ∈ h.scanner.probes, q.Preserves P) (hm : P h.machine) :
    (h.scanWith l).2.scanner = h.scanner ∧
      ∃ m, P m ∧ (h.scanWith l).2.bench = { h.bench with machine := m } := by
  have hfirst := scanned_scanKind hl hprobes hm .ladspa .begun
  rw [scanWith_eq]
  generalize scanKind l .ladspa h .begun = first at *
  obtain ⟨m₁, hm₁, hbench₁⟩ := hfirst.bench
  have hmachine : P first.2.machine := by
    rw [machine, hbench₁]
    exact hm₁
  have hsecond := scanned_scanKind hl (hfirst.scanner ▸ hprobes) hmachine .vamp first.1
  obtain ⟨m₂, hm₂, hbench₂⟩ := hsecond.bench
  refine ⟨hsecond.scanner.trans hfirst.scanner, m₂, hm₂, hbench₂.trans ?_⟩
  rw [hbench₁]

/-- A scan leaves everything that is open as it was, and the racks of the bench. -/
theorem sound_scan (hchecks : ∀ q ∈ h.scanner.probes, q.ChecksOnly) (hb : h.bench.Sound) :
    h.scan.2.scanner = h.scanner ∧ h.scan.2.bench.Sound ∧ h.scan.2.bench.racks = h.bench.racks := by
  obtain ⟨hscanner, m, hprobed, hbench⟩ :=
    scanned_scanWith (l := Machine.tableLoader) (fun symbol p _ hm => .check hm symbol p)
      (fun q hq => hchecks q hq h.machine) .nothing
  rw [scan, hbench]
  exact ⟨hscanner, sound_withMachine hb hprobed, rfl⟩

/-- After a scan in which no files change, all plugins that are listed were just found. -/
theorem lists_scan (hprobes : h.scanner.probes ≠ [])
    (hchecks : ∀ q ∈ h.scanner.probes, q.ChecksOnly)
    (hleaves : ∀ q ∈ h.scanner.probes, q.Leaves h.machine.files) (hb : h.bench.Sound) :
    h.GoesOn h.scan.2 ∧ ∀ kind, h.scan.2.Lists kind := by
  obtain ⟨r, report, hscan⟩ := scan_eq h
  have hfirst := probed_scanKind hchecks .ladspa .begun
  have hfiles₁ := files_scanKind hleaves .ladspa .begun
  have hlists₁ := lists_scanKind hprobes hchecks hleaves hb .ladspa .begun
  generalize (scanKind Machine.tableLoader .ladspa h .begun).2 = h₁ at *
  have hb₁ := hfirst.sound hb
  rw [← hfirst.scanner] at hprobes hchecks hleaves
  rw [← hfiles₁] at hleaves
  have hsecond := probed_scanKind hchecks .vamp r
  have hfiles₂ := files_scanKind hleaves .vamp r
  have hlists₂ := lists_scanKind hprobes hchecks hleaves hb₁ .vamp r
  generalize (scanKind Machine.tableLoader .vamp h₁ r).2 = h₂ at *
  have hgoes := hsecond.goesOn hb₁ hfiles₂
  -- The report changes nothing that is listed.
  have hlast : h₂.GoesOn { h₂ with lastReport := report } := ⟨rfl, rfl, Bench.goesOn_refl _⟩
  rw [hscan]
  refine ⟨((hfirst.goesOn hb hfiles₁).trans hgoes).trans hlast, fun kind => ?_⟩
  cases kind with
  | ladspa => exact (hlists₁.goesOn hgoes (hsecond.others .ladspa (by decide))).goesOn hlast rfl
  | vamp => exact hlists₂.goesOn hlast rfl

/-- The effects that are listed after a scan are found first, before any analyser. -/
theorem identifiers_scan (hprobes : h.scanner.probes ≠ [])
    (hchecks : ∀ q ∈ h.scanner.probes, q.ChecksOnly) :
    h.scan.2.identifiers .ladspa = (h.found .ladspa).1.identifiers := by
  obtain ⟨r, report, hscan⟩ := scan_eq h
  have hfirst := probed_scanKind hchecks .ladspa .begun
  have hregistry := (scanKind_eq hprobes .ladspa .begun).2
  generalize (scanKind Machine.tableLoader .ladspa h .begun).2 = h₁ at *
  have hsecond := probed_scanKind (hfirst.scanner ▸ hchecks) .vamp r
  rw [hscan]
  change ((scanKind Machine.tableLoader .vamp h₁ r).2.registries .ladspa).identifiers = _
  rw [hsecond.others .ladspa (by decide), hregistry]
  rfl

end Host

end AudioHost
