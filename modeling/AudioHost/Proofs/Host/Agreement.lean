import AudioHost.Proofs.Host.Orders
import AudioHost.Proofs.Rack.Attempts

/-!
The law of discovery and instantiation. While files and libraries stay, every plugin that a host
lists after a scan can be asked for: its name leads back to the library that was listed and to the
entry that its record was copied from, and only this entry's own function can let it down.
-/

namespace AudioHost

namespace Host

variable {h : Host} {kind : PluginKind} {id : Identifier} {d : Descriptor} {r : Rack} {n : Nat}

/-- A library that is listed is found where it is listed. -/
theorem locate_listed {s : Scanner} {files : FileTree} {p : Path} (hp : p ∈ s.listed files kind)
    (r : Rack) : r.locate files p.text = .ok p := by
  have hfile : files.system.isFile p = true := Candidates.isFile_of_mem_ofPattern hp
  unfold Rack.locate Rack.locateIn Locate.file?
  dsimp only
  rw [if_pos hfile]

/-- A rack of a host honours a plugin: it finds the library under the plugin's own name, and asks it
for an instance of the descriptor, and what comes of that is what the host answers. -/
structure Honours (h : Host) (id : Identifier) (d : Descriptor) (rate : Single) (r : Rack) :
    Prop where
  rack : h.rack? id.kind = some r
  located : r.locate h.machine.files id.library = .ok ⟨id.library⟩
  attempted : Attempted ⟨id.library⟩ d id rate (r.instantiate id rate h.machine).1 h.machine
    (r.instantiate id rate h.machine).2.2
  answered : ∀ name, (h.instantiate id rate name).1 = (r.instantiate id rate h.machine).1

theorem answer_instantiate (hrack : h.rack? id.kind = some r) (rate : Single) (name : String) :
    (h.instantiate id rate name).1 = (r.instantiate id rate h.machine).1 := by
  simp only [Host.instantiate, hrack, Bench.instantiate, machine]
  rcases r.instantiate id rate h.bench.machine with ⟨e | i, r', m'⟩
  · rfl
  · dsimp only
    split <;> rfl

/-- Asking for an instance changes nothing that is listed. -/
theorem registries_instantiate (h : Host) (id : Identifier) (rate : Single) (name : String) :
    (h.instantiate id rate name).2.registries = h.registries := by
  unfold Host.instantiate
  split <;> rfl

theorem Sound.honours (hh : h.Sound) (hcurrent : h.bench.Current n)
    (hopened : ∀ o ∈ h.machine.linker.opened, n ≤ o.number) (hcopied : h.Copied id d)
    (rate : Single) : ∃ r, h.Honours id d rate r := by
  obtain ⟨r, hrack, hkind, hnumber⟩ := hh.rack? id.kind
  obtain ⟨_, others, hperm, _, _⟩ :=
    Bench.rack?_eq_some hnumber hh.bench.custody.racks_apart
  have c := hh.bench.custody.perm hperm (.refl _)
  have hlocate := locate_listed hcopied.listed r
  obtain ⟨k, hentry⟩ := hcopied.entry
  rw [← hkind] at hentry
  exact ⟨r, hrack, hlocate, c.attempted (hcurrent r (Bench.mem_of_rack? hnumber)) hopened hkind.symm
    hlocate hentry hcopied.label rate, answer_instantiate hrack rate⟩

/-! ## The law -/

/-- Whatever was asked of a host before and after the last change of files and libraries: if it has
scanned since then, and every library that is still open was opened since then, then each plugin
that it lists is of the kind that it is listed for, and has a record that was copied from an entry
of a listed library, the only one of its label. Asked for an instance at any rate, the host comes to
just this library and this entry, calls its function if that is there, and fails only if the
function is missing or makes none. -/
theorem what_is_listed_can_be_asked_for (scanner : Scanner) (index : Option SemanticIndex)
    (files : FileTree) (sources : List (Path × LibrarySource)) (elsewhere : LibrarySource)
    (early late : List HostOrder) (hprobes : scanner.probes ≠ [])
    (hchecks : ∀ q ∈ scanner.probes, q.ChecksOnly)
    (hleaves : ((fresh scanner index files sources elsewhere).run early).Leaves)
    (hkeep : ∀ order ∈ late, ¬ order.Changes) (hscan : .scan ∈ late)
    (hopened : ∀ o ∈ (((fresh scanner index files sources elsewhere).run early).run
      late).machine.linker.opened,
      ((fresh scanner index files sources elsewhere).run early).machine.linker.next ≤ o.number) :
    let h := ((fresh scanner index files sources elsewhere).run early).run late
    ∀ kind, ∀ id ∈ h.identifiers kind, id.kind = kind ∧ ∃ d, h.Copied id d ∧ ∀ rate,
      (∃ r, h.Honours id d rate r) ∧ ∀ name e, (h.instantiate id rate name).1 = .error e →
        ∃ fault, e = .instantiationFailure id.label fault := by
  intro h kind id hid
  have hbefore := sound_run (sound_fresh hprobes hchecks index files sources elsewhere) early
  have hh : h.Sound := sound_run hbefore late
  -- From the number that is next at the last change on, what the racks hold lies at its path.
  obtain ⟨hgoes, _⟩ := goesOn_run hbefore hleaves hkeep
  have hcurrent := hgoes.bench.current _ hbefore.bench.current
  obtain ⟨hkind, d, hcopied⟩ := lists_run hbefore hleaves hkeep hscan kind id hid
  refine ⟨hkind, d, hcopied, fun rate => ?_⟩
  obtain ⟨r, hhonours⟩ := hh.honours hcurrent hopened hcopied rate
  refine ⟨⟨r, hhonours⟩, fun name e he => ?_⟩
  have hattempted := hhonours.attempted
  rw [← hhonours.answered name, he] at hattempted
  exact hattempted.error_eq

/-- A directory of effects, which are checked in this very process. -/
def oneDirectory : Scanner where
  settings := { PluginSettings.usual with ladspaPath := some ["d"] }
  environment := []
  probes := [.inProcess Scanner.nativeTag]

/-- The directory with one file. -/
def oneFile : FileTree :=
  ⟨[(["d".toList], .directory), (["d".toList, "a.so".toList], .file (.bytes []) false)]⟩

/-- A host where the file is the library of the specimen amplifiers. -/
def amplifiers : Host := fresh oneDirectory none oneFile [] (.specimen .amplifiers)

/-- The first of the amplifiers. -/
def monoAmplifier : Identifier := ⟨.ladspa, "d/a.so", "amp_mono"⟩

theorem listed_oneDirectory : oneDirectory.listed oneFile .ladspa = [⟨"d/a.so"⟩] := by
  have hpattern : NamePattern.ofText? "*.so" =
      some ⟨[.run, .char '.', .char 's', .char 'o']⟩ := by decide +kernel
  have hdirectories : oneDirectory.directories .ladspa = [⟨"d"⟩] := by decide +kernel
  unfold Scanner.listed
  rw [hdirectories]
  exact Candidates.ofPattern_of_sorted hpattern (by decide +kernel) (by decide +kernel)

theorem checksOnly_oneDirectory : ∀ q ∈ oneDirectory.probes, q.ChecksOnly := by
  intro q hq
  rw [List.mem_singleton.mp hq]
  exact Probe.checksOnly_inProcess _

/-- A scan finds the first amplifier. -/
theorem monoAmplifier_mem : monoAmplifier ∈ amplifiers.scan.2.identifiers .ladspa := by
  rw [identifiers_scan (List.cons_ne_nil _ _) checksOnly_oneDirectory]
  unfold found Scanner.scan
  rw [show amplifiers.scanner.listed amplifiers.machine.files .ladspa = [⟨"d/a.so"⟩] from
    listed_oneDirectory]
  decide +kernel

/-- Only one descriptor has the label of the first amplifier. -/
theorem eq_mono_of_hasEntry {k : Nat} {d : Descriptor}
    (h : amplifiers.machine.HasEntry .ladspa ⟨"d/a.so"⟩ k d) (hlabel : d.label = "amp_mono") :
    d = .effect Specimen.mono := by
  obtain ⟨e, fault, t, hload, htable, hentry, _⟩ := h
  have hentries : t.entries = [.effect Specimen.mono, .effect Specimen.stereo] := by
    cases hload
    cases htable
    rfl
  have hmem := List.mem_of_getElem? hentry
  rw [hentries, List.mem_cons, List.mem_singleton] at hmem
  refine hmem.resolve_right ?_
  rintro rfl
  exact absurd hlabel (by decide +kernel)

/-- The first amplifier is asked for again while an instance of it may live, and another one is made
by the function of its descriptor. -/
theorem the_first_amplifier_can_be_asked_for_again :
    let h := amplifiers.run [.scan, .instantiate monoAmplifier .one "x"]
    let d : Descriptor := .effect Specimen.mono
    monoAmplifier ∈ h.identifiers .ladspa ∧
      h.Copied monoAmplifier d ∧ ∃ r, h.Honours monoAmplifier d .one r ∧
        ∃ i n, (h.instantiate monoAmplifier .one "y").1 = .ok i ∧ i.identifier = monoAmplifier ∧
          i.engine = .effect (.start Specimen.mono) ∧ i.library = n ∧
          .called n none (.instantiateEffect 1) ∈
            (r.instantiate monoAmplifier .one h.machine).2.2.journal := by
  intro h d
  have hmem : monoAmplifier ∈ h.identifiers .ladspa := by
    unfold identifiers
    change _ ∈ ((amplifiers.scan.2.instantiate monoAmplifier .one "x").2.registries
      .ladspa).identifiers
    rw [registries_instantiate]
    exact monoAmplifier_mem
  have hleaves : amplifiers.Leaves := by
    intro q hq
    rw [List.mem_singleton.mp hq]
    exact Probe.leaves_inProcess _ _
  have hkeep : ∀ order ∈ [.scan, .instantiate monoAmplifier .one "x"],
      ¬ HostOrder.Changes order := by simp [HostOrder.Changes]
  obtain ⟨_, d', hcopied, hasked⟩ := what_is_listed_can_be_asked_for oneDirectory none oneFile []
    (.specimen .amplifiers) [] [.scan, .instantiate monoAmplifier .one "x"] (List.cons_ne_nil _ _)
    checksOnly_oneDirectory hleaves hkeep (by simp) (fun o _ => Nat.zero_le o.number) .ladspa
    monoAmplifier hmem
  obtain rfl : d' = d := by
    obtain ⟨k, hentry⟩ := hcopied.entry
    have hsound := sound_fresh (List.cons_ne_nil _ _) checksOnly_oneDirectory none oneFile []
      (.specimen .amplifiers)
    exact eq_mono_of_hasEntry ((goesOn_run hsound hleaves hkeep).1.bench.keeps.hasEntry hentry)
      hcopied.label
  obtain ⟨r, hhonours⟩ : ∃ r, h.Honours monoAmplifier d .one r := (hasked .one).1
  refine ⟨hmem, hcopied, r, hhonours, ?_⟩
  obtain ⟨n, calls, hattempt, _, j, _, hadds⟩ := hhonours.attempted
  rw [hhonours.answered "y"]
  -- The function of the descriptor is there and makes instances, so that the attempt succeeds.
  rcases hanswer : (r.instantiate monoAmplifier .one h.machine).1 with e | i
  · rw [hanswer] at hattempt
    rcases hattempt with hlacks | hrefuses
    · exact absurd hlacks.of_effect.1 (by decide)
    · exact absurd hrefuses.of_effect.2.1 (by decide)
  · rw [hanswer] at hattempt
    obtain _ | _ | ⟨hmakes, hidentifier, _, hlibrary⟩ := hattempt
    obtain ⟨_, _, rfl, hengine⟩ := hmakes.of_effect
    refine ⟨i, n, rfl, hidentifier, hengine, hlibrary, ?_⟩
    exact hadds.mem (List.mem_append_right j List.mem_cons_self)

end Host

end AudioHost
