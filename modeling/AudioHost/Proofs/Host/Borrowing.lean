import AudioHost.Proofs.Host.Agreement

/-!
How a scan uses libraries. Checking a library and reading its table both open it, look a symbol up
and close it again before another one is opened, whatever the loader makes of any of this. So a scan
keeps no library, and it leaves all instances and what they use alone.
-/

namespace AudioHost

/-! ## Visits -/

/-- What was asked of a loader, and which libraries it gave out. -/
inductive LoaderEvent (Library : Type) where
  | openFailed (p : Path)
  | opened (p : Path) (library : Library)
  | closed (library : Library)

namespace Loader

variable {σ : Type} {l : Loader σ} {s s' : σ}

/-- A loader is led from one state to another by visits to libraries and by nothing else. A visit
opens a library. If that succeeds, it looks a symbol up and closes this very library, however either
goes. -/
inductive Visits (l : Loader σ) (s : σ) : List (LoaderEvent l.Library) → σ → Prop
  | nothing : Visits l s [] s
  | openFailed {events : List (LoaderEvent l.Library)} {s₁ s₂ : σ} {p : Path} {e : PluginError}
    (h : Visits l s events s₁) (hopen : l.openAt p s₁ = (.error e, s₂)) :
    Visits l s (events ++ [.openFailed p]) s₂
  | borrowed {events : List (LoaderEvent l.Library)} {s₁ s₂ s₃ s₄ : σ} {p : Path}
    {library : l.Library} {symbol : String} {found closed : Except PluginError Unit}
    (h : Visits l s events s₁) (hopen : l.openAt p s₁ = (.ok library, s₂))
    (hlookup : l.lookup symbol library s₂ = (found, s₃))
    (hclose : l.close library s₃ = (closed, s₄)) :
    Visits l s (events ++ [.opened p library, .closed library]) s₄

/-- Checking a library is a visit to it. -/
theorem visits_check (symbol : String) (p : Path) (h : ∃ events, l.Visits s events s') :
    ∃ events, l.Visits s events (l.check symbol p s').2 := by
  obtain ⟨events, hvisits⟩ := h
  unfold check
  rcases hopen : l.openAt p s' with ⟨e | library, s₁⟩
  · exact ⟨_, .openFailed hvisits hopen⟩
  · exact ⟨_, .borrowed hvisits hopen rfl rfl⟩

end Loader

namespace Host

variable {h : Host} {l : TableLoader Machine} {P : Machine → Prop}

/-- What checking libraries keeps, a scan keeps that checks them with the same loader. -/
theorem preserves_scanWith (hprobes : ∀ q ∈ h.scanner.probes, ∃ tag, q = .ofLoader l.toLoader tag)
    (hl : ∀ symbol p m, P m → P (l.check symbol p m).2) (hm : P h.machine) :
    ∃ m, P m ∧ (h.scanWith l).2.bench = { h.bench with machine := m } := by
  have hpreserves : ∀ q ∈ h.scanner.probes, q.Preserves P := by
    intro q hq
    obtain ⟨tag, rfl⟩ := hprobes q hq
    exact Probe.preserves_ofLoader hl tag
  exact (scanned_scanWith hl hpreserves hm).2

/-! ## The law -/

/-- Let every checker of a host check libraries in this very process. With any loader, however it
answers, a scan leaves the racks and the instances as they are, and all that it does with the loader
is visits, each of which closes the library that it opened before the next one begins. On a machine,
whatever was asked of the host before, the journal goes on with such visits and with nothing else,
the libraries that they open have numbers of their own, and all that was open is open still, with
the same users. -/
theorem a_scan_only_borrows_libraries :
    (∀ (l : TableLoader Machine) (h : Host),
      (∀ q ∈ h.scanner.probes, ∃ tag, q = .ofLoader l.toLoader tag) →
      ∃ events m, l.Visits h.machine events m ∧
        (h.scanWith l).2.bench = { h.bench with machine := m }) ∧
    ∀ (scanner : Scanner) (index : Option SemanticIndex) (files : FileTree)
      (sources : List (Path × LibrarySource)) (elsewhere : LibrarySource) (orders : List HostOrder),
      scanner.probes ≠ [] → (∀ q ∈ scanner.probes, ∃ tag, q = .inProcess tag) →
      let h := (fresh scanner index files sources elsewhere).run orders
      ∃ j n, Journal.Borrows h.machine.linker.next j n ∧
        h.scan.2.bench = { h.bench with machine := h.machine.after j n } ∧
        ∀ o ∈ h.machine.linker.opened, o.number < h.machine.linker.next := by
  refine ⟨fun l h hprobes => ?_, ?_⟩
  · obtain ⟨m, ⟨events, hvisits⟩, hbench⟩ := preserves_scanWith hprobes
      (P := fun m => ∃ events, l.Visits h.machine events m)
      (fun symbol p _ hm => Loader.visits_check symbol p hm) ⟨[], .nothing⟩
    exact ⟨events, m, hvisits, hbench⟩
  · intro scanner index files sources elsewhere orders hsome hprobes h
    have hchecks : ∀ q ∈ scanner.probes, q.ChecksOnly := by
      intro q hq
      obtain ⟨tag, rfl⟩ := hprobes q hq
      exact Probe.checksOnly_inProcess tag
    have hstart := sound_fresh hsome hchecks index files sources elsewhere
    have hscanner : h.scanner = scanner := scanner_run hstart orders
    have hfresh : h.machine.linker.Fresh := (sound_run hstart orders).bench.custody.linker.fresh
    obtain ⟨m, ⟨j, n, hj, rfl⟩, hbench⟩ :=
      preserves_scanWith (l := Machine.tableLoader) (P := h.machine.Lends) (hscanner ▸ hprobes)
        (fun symbol p m hm => hm.trans (Machine.check_lends (hm.fresh hfresh) symbol p).2)
        (Machine.lends_refl _)
    exact ⟨j, n, hj, hbench, hfresh⟩

/-- An amplifier that lives keeps its library open through a scan that visits the library again. -/
theorem a_live_amplifier_keeps_its_library :
    let h := amplifiers.run [.instantiate monoAmplifier .one "x"]
    h.bench.slots.map Prod.fst = ["x"] ∧ h.machine.linker.opened.length = 1 ∧
      h.scan.2.bench.slots = h.bench.slots ∧ h.scan.2.bench.racks = h.bench.racks ∧
      h.scan.2.machine.linker.opened = h.machine.linker.opened ∧
      ∃ events, Machine.loader.Visits h.machine events h.scan.2.machine := by
  intro h
  have hprobes : ∀ q ∈ oneDirectory.probes, ∃ tag, q = .inProcess tag := by
    intro q hq
    rw [List.mem_singleton.mp hq]
    exact ⟨_, rfl⟩
  have hscanner : h.scanner = oneDirectory :=
    scanner_run (sound_fresh (List.cons_ne_nil _ _) checksOnly_oneDirectory none oneFile [] _) _
  obtain ⟨hany, hmachine⟩ := a_scan_only_borrows_libraries
  obtain ⟨events, m, hvisits, hvisited⟩ := hany Machine.tableLoader h (hscanner ▸ hprobes)
  obtain ⟨j, n, _, hbench, _⟩ := hmachine oneDirectory none oneFile [] (.specimen .amplifiers)
    [.instantiate monoAmplifier .one "x"] (List.cons_ne_nil _ _) hprobes
  have hscan : h.scan.2.bench = { h.bench with machine := h.machine.after j n } := hbench
  have hsame : h.scan.2.machine = m := congrArg Bench.machine hvisited
  refine ⟨by decide +kernel, by decide +kernel, ?_, ?_, ?_, events, hsame ▸ hvisits⟩
  · rw [hscan]
  · rw [hscan]
  · rw [machine, hscan]
    rfl

end Host

end AudioHost
