import AudioHost.Proofs.Discovery.Settling
import AudioHost.Proofs.Host.Agreement

/-!
What a scan with one checker accounts for. Each listed file either gives all of its plugins or has
one failure in the report; the numbers in the report, the state and the lists of a kind agree; and
nothing of this depends on what was scanned before.
-/

namespace AudioHost

/-! ## Registries -/

namespace Registry

variable {records : List Record}

/-- Records with different names are listed in the order of the names. -/
theorem descriptors_ofScan (t : Taxonomy) (hapart : (records.map Record.identifier).Nodup) :
    (ofScan (records.map Record.identifier) (records.map t.apply)).descriptors =
      records.map t.apply := by
  change (records.map Record.identifier).filterMap _ = _
  rw [List.filterMap_map]
  refine (List.filterMap_congr fun r hr => ?_).trans (congrFun List.filterMap_eq_map records)
  exact record?_ofScan t hapart hr _

theorem record?_ofScan_iff (t : Taxonomy) (hapart : (records.map Record.identifier).Nodup)
    (ids : List Identifier) {id : Identifier} {e : Record} :
    (ofScan ids (records.map t.apply)).record? id = some e ↔
      e ∈ records.map t.apply ∧ e.identifier = id := by
  constructor
  · intro h
    refine ⟨List.mem_reverse.mp (List.mem_of_find?_eq_some h), ?_⟩
    simpa using List.find?_some h
  · rintro ⟨he, rfl⟩
    obtain ⟨r, hr, rfl⟩ := List.mem_map.mp he
    rw [t.identifier_apply]
    exact record?_ofScan t hapart hr ids

end Registry

namespace Host

variable {l : TableLoader Machine} {tag : String} {usual : Machine → Prop} {h g : Host}
variable {kind : PluginKind}

/-! ## What a scan comes to -/

/-- The files that a host lists for a kind. -/
def files (h : Host) (kind : PluginKind) : List Path := h.scanner.listed h.machine.files kind

theorem apart_files (h : Host) (kind : PluginKind) :
    (h.files kind).Pairwise fun p q => p.same q = false := Candidates.apart_ofPattern ..

theorem nodup_files (h : Host) (kind : PluginKind) : (h.files kind).Nodup :=
  Candidates.nodup_of_apart (h.apart_files kind)

/-- All that the files for a kind come to. -/
def settled (h : Host) (l : TableLoader Machine) (tag : String) (kind : PluginKind) :
    Enumeration := .settlements l kind tag h.machine (h.files kind)

/-- The failures of the files for a kind, as they are reported. -/
def excluded (h : Host) (l : TableLoader Machine) (tag : String) (kind : PluginKind) :
    List ScanFailure := Enumeration.exclusions l kind tag h.machine (h.files kind)

/-- What is known of the plugins of a kind once the files for it are settled. -/
def registered (h : Host) (l : TableLoader Machine) (tag : String) (kind : PluginKind) : Registry :=
  .ofScan (h.settled l tag kind).identifiers
    ((h.settled l tag kind).records.map (h.taxonomyFor kind).apply)

/-- Two hosts have the same settings and the same files, and their machines are usual. -/
structure Alike (usual : Machine → Prop) (g h : Host) : Prop where
  scanner : h.scanner = g.scanner
  index : h.index = g.index
  files : h.machine.files = g.machine.files
  here : usual g.machine
  there : usual h.machine

theorem Alike.taxonomyFor_eq (ha : Alike usual g h) (kind : PluginKind) :
    h.taxonomyFor kind = g.taxonomyFor kind := by
  rw [taxonomyFor, taxonomyFor, ha.scanner, ha.index, ha.files]

theorem Alike.scan_eq (ha : Alike usual g h)
    (hprobes : g.scanner.probes = [.ofLoader l.toLoader tag]) (kind : PluginKind) :
    h.scanner.scan kind h.machine =
      Scanner.scanFiles [.ofLoader l.toLoader tag] kind (g.files kind) h.machine := by
  rw [Scanner.scan, ha.scanner, ha.files, hprobes, Host.files]

theorem enumerate_eq {candidates : List Candidate} {e : Enumeration} {m : Machine}
    (he : Enumeration.ofLoader l kind candidates h.machine = (e, m)) (r : ScanReport) :
    h.enumerate l kind candidates r =
      (addFound r kind e.failures e.identifiers.length,
        (h.onMachine m).setRegistry kind (.ofScan e.identifiers
          (e.records.map ((h.onMachine m).taxonomyFor kind).apply))) := by
  unfold enumerate
  rw [he]

/-- Scanning for a kind finds what the files come to, whichever host looked at them. -/
theorem scanKind_alike (hsteady : l.Steady usual)
    (hprobes : g.scanner.probes = [.ofLoader l.toLoader tag])
    (hstays : ∀ m, usual m → m.files = g.machine.files) (ha : Alike usual g h)
    (kind : PluginKind) (r : ScanReport) :
    let next := scanKind l kind h r
    next.1 = { r with
      succeeded := true
      failures := r.failures ++ g.excluded l tag kind
      found := r.found ++ [(kind, (g.settled l tag kind).identifiers.length)] } ∧
    Alike usual g next.2 ∧ next.2.registries kind = g.registered l tag kind ∧
    ∀ k, k ≠ kind → next.2.registries k = h.registries k := by
  intro next
  have hsome : h.scanner.probes ≠ [] := by
    rw [ha.scanner, hprobes]
    exact List.cons_ne_nil _ _
  obtain ⟨hids, hrecords, hfailures, hprobed, husual⟩ :=
    Enumeration.ofLoader_scanFiles hsteady ha.there (g.apart_files kind) kind tag
  -- The files were looked at from `h`, and they come to the same from `g`.
  rw [Enumeration.settlements_congr hsteady ha.there ha.here] at hids hrecords
  rw [Enumeration.exclusions_congr hsteady ha.there ha.here] at hfailures
  rw [← ha.scan_eq hprobes kind] at hids hrecords hfailures hprobed husual
  have hnext : next = _ := scanKind_enumerates l hsome kind r
  generalize h.scanner.scan kind h.machine = scanned at *
  rcases hread : Enumeration.ofLoader l kind scanned.1.candidates scanned.2 with ⟨e, m⟩
  rw [hread] at hids hrecords hfailures husual
  dsimp only at hids hrecords hfailures husual
  -- What gives the records their categories is looked up again, in the same files.
  have hread' : Alike usual g (((h.setState kind .scanning).onMachine scanned.2).onMachine m) :=
    ⟨ha.scanner, ha.index, hstays m husual, ha.here, husual⟩
  rw [enumerate_eq hread] at hnext
  rw [hnext]
  refine ⟨?_, ⟨ha.scanner, ha.index, hstays m husual, ha.here, husual⟩, ?_, fun k hk => ?_⟩
  · simp only [addFound, addScan, hprobed, Bool.or_true, List.append_assoc, hfailures, hids]
    rfl
  · refine (if_pos rfl).trans ?_
    rw [hread'.taxonomyFor_eq, hids, hrecords]
    rfl
  · simp only [setRegistry, onMachine, setState, if_neg hk]

/-- A scan finds what the files for each kind come to, whichever host looked at them. -/
theorem scanWith_alike (hsteady : l.Steady usual)
    (hprobes : g.scanner.probes = [.ofLoader l.toLoader tag])
    (hstays : ∀ m, usual m → m.files = g.machine.files) (ha : Alike usual g h) :
    (h.scanWith l).1 = ⟨true,
        PluginKind.all.map fun kind => (kind, (g.settled l tag kind).identifiers.length),
        PluginKind.all.flatMap (g.excluded l tag), true⟩ ∧
      (h.scanWith l).2.registries = g.registered l tag ∧
      (h.scanWith l).2.lastReport = some (h.scanWith l).1 ∧ Alike usual g (h.scanWith l).2 := by
  obtain ⟨hreport₁, ha₁, hregistry₁, _⟩ :=
    scanKind_alike hsteady hprobes hstays ha .ladspa .begun
  rw [scanWith_eq]
  generalize scanKind l .ladspa h .begun = first at *
  obtain ⟨hreport₂, ha₂, hregistry₂, hothers₂⟩ :=
    scanKind_alike hsteady hprobes hstays ha₁ .vamp first.1
  generalize scanKind l .vamp first.2 first.1 = second at *
  refine ⟨?_, funext fun kind => ?_, rfl, ha₂.scanner, ha₂.index, ha₂.files, ha₂.here, ha₂.there⟩
  · dsimp only
    rw [hreport₂, hreport₁]
    simp [PluginKind.all, ScanReport.begun]
  · cases kind with
    | ladspa => exact (hothers₂ .ladspa (by decide)).trans hregistry₁
    | vamp => exact hregistry₂

/-! ## The parts of a scan -/

theorem identifiers_settled (h : Host) (l : TableLoader Machine) (tag : String)
    (kind : PluginKind) :
    (h.settled l tag kind).identifiers = (h.settled l tag kind).records.map Record.identifier ∧
      (h.settled l tag kind).identifiers.Nodup :=
  Enumeration.identifiers_settlements l kind tag h.machine (h.nodup_files kind)

theorem records_settled (h : Host) (l : TableLoader Machine) (tag : String) (kind : PluginKind) :
    (h.settled l tag kind).records = (h.files kind).flatMap fun p =>
      (Enumeration.settlement l kind tag h.machine p).records :=
  Enumeration.records_settlements l kind tag h.machine (h.files kind)

theorem descriptors_registered (h : Host) (l : TableLoader Machine) (tag : String)
    (kind : PluginKind) : (h.registered l tag kind).descriptors =
      (h.settled l tag kind).records.map (h.taxonomyFor kind).apply := by
  obtain ⟨hids, hapart⟩ := h.identifiers_settled l tag kind
  rw [hids] at hapart
  rw [registered, hids]
  exact Registry.descriptors_ofScan _ hapart

theorem mem_excluded {f : ScanFailure} (hf : f ∈ h.excluded l tag kind) :
    f.kind = kind ∧ f.path ∈ h.files kind := by
  have hsettled := (Enumeration.perm_exclusions l kind tag h.machine _).mem_iff.mp hf
  obtain ⟨part, hpart, hf⟩ := List.mem_flatMap.mp hsettled
  obtain ⟨p, hp, rfl⟩ := List.mem_map.mp hpart
  obtain ⟨hkind, rfl⟩ := (Enumeration.settled_settlement l kind tag h.machine p).failure hf
  exact ⟨hkind, hp⟩

/-- The failures in a report that are about a listed file are those that the file comes to. -/
theorem filter_excluded {p : Path} (hp : p ∈ h.files kind) :
    (PluginKind.all.flatMap (h.excluded l tag)).filter (fun f => f.kind = kind ∧ f.path = p) =
      (Enumeration.settlement l kind tag h.machine p).failures := by
  have hkind : (PluginKind.all.flatMap (h.excluded l tag)).filter (fun f => f.kind = kind) =
      h.excluded l tag kind :=
    filter_flatMap_key (fun k _ f hf => (mem_excluded hf).1) (by decide)
      (by cases kind <;> decide)
  have hboth : (fun f : ScanFailure => decide (f.kind = kind ∧ f.path = p)) =
      fun f => decide (f.path = p) && decide (f.kind = kind) := by
    funext f
    rw [Bool.decide_and, Bool.and_comm]
  rw [hboth, ← List.filter_filter, hkind]
  -- The report lists refusals first, but of one file there is no more than one failure.
  refine (Enumeration.settled_settlement l kind tag h.machine p).failures_eq ?_
  rw [← Enumeration.filter_failures_settlements (h.nodup_files kind) hp]
  exact (Enumeration.perm_exclusions l kind tag h.machine _).filter _

/-- The records that are listed for a file are those that the file comes to. -/
theorem filter_registered {p : Path} (hp : p ∈ h.files kind) :
    (h.registered l tag kind).descriptors.filter (fun e => ⟨e.identifier.library⟩ = p) =
      (Enumeration.settlement l kind tag h.machine p).records.map (h.taxonomyFor kind).apply := by
  have hsame : (fun e : Record => decide ((⟨e.identifier.library⟩ : Path) = p)) ∘
      (h.taxonomyFor kind).apply = fun e => decide ((⟨e.identifier.library⟩ : Path) = p) := by
    funext e
    rw [Function.comp_apply, Taxonomy.identifier_apply]
  rw [descriptors_registered, List.filter_map, hsame]
  exact congrArg _ (Enumeration.filter_records_settlements (h.nodup_files kind) hp)

/-! ## The law -/

/-- The books of a scan for a kind. Each listed file has a part of its own in them: all records of
its table, or one failure. -/
structure Accounts (l : TableLoader Machine) (tag : String) (kind : PluginKind) (h : Host)
    (r : ScanReport) (h' : Host) (part : Path → Enumeration) : Prop where
  settled : ∀ p ∈ h.files kind, Enumeration.Settled l kind tag h.machine p (part p)
  /-- What is listed for a file is its part. -/
  listed : ∀ p ∈ h.files kind,
    (h'.descriptors kind).filter (fun e => ⟨e.identifier.library⟩ = p) =
      (part p).records.map (h.taxonomyFor kind).apply
  /-- What is reported for a file is its part. -/
  reported : ∀ p ∈ h.files kind,
    r.failures.filter (fun f => f.kind = kind ∧ f.path = p) = (part p).failures
  descriptors : h'.descriptors kind =
    ((h.files kind).flatMap fun p => (part p).records).map (h.taxonomyFor kind).apply
  failures : ∀ f ∈ r.failures, f.kind = kind → f.path ∈ h.files kind
  counted : ∃ n, h'.state kind = .scanned n ∧ (h'.identifiers kind).length = n ∧
    (h'.descriptors kind).length = n ∧ r.found.filter (fun e => e.1 = kind) = [(kind, n)] ∧
    (h.files kind).foldr (fun p total => (part p).records.length + total) 0 = n
  apart : (h'.identifiers kind).Nodup
  named : (h'.descriptors kind).map Record.identifier = h'.identifiers kind
  known : ∀ id e, id.kind = kind →
    (h'.descriptor? id = some e ↔ e ∈ h'.descriptors kind ∧ e.identifier = id)

/-- Where a report and a registry hold what the files come to, the books are in order. -/
theorem accounts_of_registered {r : ScanReport} {h' : Host}
    (hfound : r.found =
      PluginKind.all.map fun kind => (kind, (h.settled l tag kind).identifiers.length))
    (hfailures : r.failures = PluginKind.all.flatMap (h.excluded l tag))
    (hregistry : h'.registries kind = h.registered l tag kind) :
    Accounts l tag kind h r h' (Enumeration.settlement l kind tag h.machine) := by
  have hdescriptors : h'.descriptors kind =
      (h.settled l tag kind).records.map (h.taxonomyFor kind).apply := by
    rw [Host.descriptors, hregistry, descriptors_registered]
  have hidentifiers : h'.identifiers kind = (h.settled l tag kind).identifiers := by
    rw [Host.identifiers, hregistry]
    rfl
  obtain ⟨hids, hapart⟩ := h.identifiers_settled l tag kind
  have hlength : (h.settled l tag kind).records.length =
      (h.settled l tag kind).identifiers.length := by
    rw [hids, List.length_map]
  exact {
    settled := fun p _ => Enumeration.settled_settlement l kind tag h.machine p
    listed := fun p hp => by
      rw [hdescriptors, ← descriptors_registered]
      exact filter_registered hp
    reported := fun p hp => by
      rw [hfailures]
      exact filter_excluded hp
    descriptors := by rw [hdescriptors, records_settled]
    failures := fun f hf hkind => by
      rw [hfailures] at hf
      obtain ⟨k, _, hf⟩ := List.mem_flatMap.mp hf
      obtain ⟨rfl, hp⟩ := mem_excluded hf
      exact hkind ▸ hp
    counted := by
      refine ⟨(h.settled l tag kind).identifiers.length, ?_, ?_, ?_, ?_, ?_⟩
      · rw [Host.state, hregistry]
        rfl
      · rw [hidentifiers]
      · rw [hdescriptors, List.length_map, hlength]
      · rw [hfound]
        cases kind <;> simp [PluginKind.all]
      · rw [← hlength, records_settled, List.length_flatMap, List.sum_eq_foldr, List.foldr_map]
    apart := by
      rw [hidentifiers]
      exact hapart
    named := by
      rw [hdescriptors, hidentifiers, hids, List.map_map]
      exact List.map_congr_left fun e _ => Taxonomy.identifier_apply _ e
    known := fun id e hid => by
      subst hid
      rw [hdescriptors, Host.descriptor?, hregistry]
      exact Registry.record?_ofScan_iff _ (hids ▸ hapart) _ }

/-- Let what a loader tells depend on the paths alone, and let a host have one checker, which checks
libraries with this loader in this very process. Then a scan accounts for every file that it lists,
whatever was scanned before: each one gives its whole table or has one failure in the report, the
numbers of all books agree, and what is known of a plugin is found by its name. A host that has
scanned nothing comes to the same report and knows the same afterwards. -/
theorem a_scan_accounts_for_every_file (l : TableLoader Machine) (usual : Machine → Prop)
    (hsteady : l.Steady usual) (h : Host) (tag : String)
    (hprobes : h.scanner.probes = [.ofLoader l.toLoader tag])
    (hstays : ∀ m, usual m → m.files = h.machine.files) (hs : usual h.machine) :
    let r := (h.scanWith l).1
    let h' := (h.scanWith l).2
    (∀ kind, ∃ part, Accounts l tag kind h r h' part) ∧ h'.lastReport = some r ∧
      Alike usual h h' ∧ ∀ m, usual (start h.scanner h.index m).machine →
        ((start h.scanner h.index m).scanWith l).1 = r ∧
          ((start h.scanner h.index m).scanWith l).2.registries = h'.registries := by
  intro r h'
  obtain ⟨hreport, hregistries, hlast, halike⟩ :=
    scanWith_alike hsteady hprobes hstays ⟨rfl, rfl, rfl, hs, hs⟩
  refine ⟨fun kind => ⟨_, accounts_of_registered (congrArg ScanReport.found hreport)
    (congrArg ScanReport.failures hreport) (congrFun hregistries kind)⟩, hlast, halike,
    fun m hm => ?_⟩
  obtain ⟨hreport', hregistries', _, _⟩ :=
    scanWith_alike hsteady hprobes hstays (h := start h.scanner h.index m)
      ⟨rfl, rfl, hstays _ hm, hs, hm⟩
  exact ⟨hreport'.trans hreport.symm, hregistries'.trans hregistries.symm⟩

/-- A directory with three files. -/
def threeFiles : FileTree :=
  ⟨[(["d".toList], .directory), (["d".toList, "a.so".toList], .file (.bytes []) false),
    (["d".toList, "b.so".toList], .file (.bytes []) false),
    (["d".toList, "c.so".toList], .file (.bytes []) false)]⟩

/-- One of the files is no library, and one lists an effect twice. -/
def threeSources : List (Path × LibrarySource) :=
  [(⟨"d/b.so"⟩, .none "absent"), (⟨"d/c.so"⟩, .specimen .repeatedDelay)]

/-- A host where the other file is the library of the specimen amplifiers. -/
def mixed : Host := fresh oneDirectory none threeFiles threeSources (.specimen .amplifiers)

theorem files_mixed : mixed.files .ladspa = [⟨"d/a.so"⟩, ⟨"d/b.so"⟩, ⟨"d/c.so"⟩] ∧
    mixed.files .vamp = [] := by
  have hpattern : NamePattern.ofText? "*.so" =
      some ⟨[.run, .char '.', .char 's', .char 'o']⟩ := by decide +kernel
  have heffects : oneDirectory.directories .ladspa = [⟨"d"⟩] := by decide +kernel
  have hanalysers : oneDirectory.directories .vamp =
      [⟨"/usr/local/lib/vamp"⟩, ⟨"/usr/lib/vamp"⟩] := by decide +kernel
  change oneDirectory.listed threeFiles .ladspa = _ ∧ oneDirectory.listed threeFiles .vamp = _
  unfold Scanner.listed
  rw [heffects, hanalysers]
  exact ⟨Candidates.ofPattern_of_sorted hpattern (by decide +kernel) (by decide +kernel),
    Candidates.ofPattern_of_sorted hpattern (by decide +kernel) (by decide +kernel)⟩

/-- What is found in a directory with three files. -/
abbrev Mixed : Machine → Prop :=
  Machine.Finds threeFiles threeSources (.specimen .amplifiers)

theorem alike_mixed : Alike Mixed mixed mixed := by
  have hstart : Mixed mixed.machine := ⟨rfl, rfl, rfl, fun o ho => by cases ho⟩
  exact ⟨rfl, rfl, rfl, hstart, hstart⟩

theorem scan_mixed :
    mixed.scan.1.failures = [⟨.ladspa, ⟨"d/b.so"⟩, "native", .failedToLoadLibrary, "absent"⟩,
        ⟨.ladspa, ⟨"d/c.so"⟩, "native", .failedElsewhere,
          "library 'd/c.so' returns plugin 'delay' at indices 0 and 1"⟩] ∧
      mixed.scan.2.identifiers .ladspa =
        [⟨.ladspa, "d/a.so", "amp_mono"⟩, ⟨.ladspa, "d/a.so", "amp_stereo"⟩] := by
  obtain ⟨heffects, hanalysers⟩ := files_mixed
  have hprobes : mixed.scanner.probes =
      [.ofLoader Machine.tableLoader.toLoader Scanner.nativeTag] := rfl
  have hstays : ∀ m, Mixed m → m.files = mixed.machine.files := fun m hm => hm.files_eq
  obtain ⟨hreport, hregistries, _⟩ :=
    scanWith_alike (Machine.steady_tableLoader _ _ _) hprobes hstays alike_mixed
  constructor
  · refine (congrArg ScanReport.failures hreport).trans ?_
    unfold PluginKind.all excluded
    rw [List.flatMap_cons, List.flatMap_cons, heffects, hanalysers]
    decide +kernel
  · refine (congrArg Registry.identifiers (congrFun hregistries .ladspa)).trans ?_
    unfold registered settled
    rw [heffects]
    decide +kernel

/-- Three files are scanned for a second time, and the report is the one of the first scan. One file
gives its plugins, one is refused, and one cannot be read. -/
theorem a_second_scan_gives_the_same_report :
    let h := mixed.scan.2
    h.scan.1 = mixed.scan.1 ∧
      h.scan.1.failures = [⟨.ladspa, ⟨"d/b.so"⟩, "native", .failedToLoadLibrary, "absent"⟩,
        ⟨.ladspa, ⟨"d/c.so"⟩, "native", .failedElsewhere,
          "library 'd/c.so' returns plugin 'delay' at indices 0 and 1"⟩] ∧
      h.scan.2.identifiers .ladspa =
        [⟨.ladspa, "d/a.so", "amp_mono"⟩, ⟨.ladspa, "d/a.so", "amp_stereo"⟩] ∧
      ∀ kind, ∃ part,
        Accounts Machine.tableLoader Scanner.nativeTag kind h h.scan.1 h.scan.2 part := by
  intro h
  obtain ⟨hfailures, hidentifiers⟩ := scan_mixed
  have hsteady : Machine.tableLoader.Steady Mixed := Machine.steady_tableLoader _ _ _
  have hagain : Alike Mixed mixed h :=
    (a_scan_accounts_for_every_file Machine.tableLoader _ hsteady mixed Scanner.nativeTag rfl
      (fun m hm => hm.files_eq) alike_mixed.here).2.2.1
  obtain ⟨hbooks, _, _, hfresh⟩ := a_scan_accounts_for_every_file Machine.tableLoader _ hsteady h
    Scanner.nativeTag (by rw [hagain.scanner]; rfl)
    (fun m hm => hm.files_eq.trans hagain.files.symm) hagain.there
  rw [hagain.scanner, hagain.index] at hfresh
  obtain ⟨hsame, hknown⟩ := hfresh _ alike_mixed.here
  refine ⟨hsame.symm, (congrArg ScanReport.failures hsame.symm).trans hfailures, ?_, hbooks⟩
  exact (congrArg Registry.identifiers (congrFun hknown .ladspa)).symm.trans hidentifiers

end Host

end AudioHost
