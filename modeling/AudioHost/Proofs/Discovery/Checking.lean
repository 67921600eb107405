import AudioHost.Proofs.Discovery.Answering
import AudioHost.Proofs.Machine.Keeping

/-!
What checkers do to a machine. They check libraries, and a program that is started for checking may
change files, but what is open stays open.
-/

namespace AudioHost

variable {σ : Type} {P : σ → Prop}

/-! ## Properties that checkers keep -/

/-- A checker keeps a property of the machine. -/
def Probe.Preserves (q : Probe σ) (P : σ → Prop) : Prop :=
  ∀ symbol paths s, P s → P (q.check symbol paths s).2

theorem Loader.preserves_checkAll {l : Loader σ} {symbol : String}
    (hl : ∀ p s, P s → P (l.check symbol p s).2) (paths : List Path) {s : σ} (hs : P s) :
    P (l.checkAll symbol paths s).2 := by
  induction paths generalizing s with
  | nil => exact hs
  | cons p paths ih => exact ih (hl p s hs)

theorem Probe.preserves_ofLoader {l : Loader σ} (hl : ∀ symbol p s, P s → P (l.check symbol p s).2)
    (tag : String) : (ofLoader l tag).Preserves P :=
  fun symbol paths _ hs => l.preserves_checkAll (hl symbol) paths hs

/-- A checker leaves a property behind, whether it is killed or left alone. -/
def Started.Yields (c : Started σ) (P : σ → Prop) : Prop := P c.killed ∧ ∀ s ∈ c.ended, P s

/-- What comes of starting a checker leaves a property behind. -/
def Start.Yields (P : σ → Prop) : Start σ → Prop
  | .refused _ s => P s
  | .running c => c.Yields P

namespace Supervisor

variable {spawn : Spawner σ}

/-- Starting a checker keeps a property. -/
def Keeps (spawn : Spawner σ) (P : σ → Prop) : Prop :=
  ∀ requests s, P s → (spawn requests s).Yields P

theorem preserves_after {c : Started σ} (hc : c.Yields P) {pending : List Path} {s : σ}
    (hs : after c pending = some s) : P s := by
  unfold after at hs
  split at hs
  · rw [await_eq] at hs
    exact hc.2 s hs
  · cases hs
    exact hc.1

theorem preserves_restart (hspawn : Keeps spawn P) (timeoutSeconds : Nat) (pending : List Path)
    {s : σ} (hs : P s) : ∀ r ∈ restart spawn timeoutSeconds pending s, P r.2 := by
  fun_induction restart spawn timeoutSeconds pending s with
  | case1 s =>
    rintro r ⟨rfl⟩
    exact hs
  | case2 front rest s reason s' hrefused =>
    have hafter := hspawn ((front :: rest).map Verdict.requestLine) s hs
    rw [hrefused] at hafter
    rintro r ⟨rfl⟩
    exact hafter
  | case3 front rest s c hrunning settled ih =>
    have hafter := hspawn ((front :: rest).map Verdict.requestLine) s hs
    rw [hrunning] at hafter
    simp only [Option.bind_eq_bind, Option.mem_def, Option.bind_eq_some_iff]
    rintro r ⟨s', hs', ⟨more, s''⟩, hmore, ⟨rfl⟩⟩
    exact ih s' (preserves_after hafter hs') (more, s'') hmore

/-- What starting a checker keeps is kept, however often it is started. -/
theorem preserves_probe (hspawn : Keeps spawn P) (executable : Path) (timeoutSeconds : Nat)
    (paths : List Path) {s : σ} (hs : P s) :
    ∀ r ∈ probe spawn executable timeoutSeconds paths s, P r.2 := by
  have hafter := hspawn (paths.map Verdict.requestLine) s hs
  by_cases hpaths : paths = []
  · subst hpaths
    rintro r ⟨rfl⟩
    exact hs
  · rcases hstart : spawn (paths.map Verdict.requestLine) s with ⟨reason, s'⟩ | c
    · rw [hstart] at hafter
      rw [probe_refused hpaths hstart]
      rintro r ⟨rfl⟩
      exact hafter
    · rw [probe_running hpaths hstart]
      simp only [Option.mem_def, Option.map_eq_some_iff]
      rintro r ⟨r', hr', rfl⟩
      exact preserves_restart hspawn timeoutSeconds paths hs r' hr'

end Supervisor

theorem Probe.preserves_supervised {spawn : String → Spawner σ}
    (hspawn : ∀ symbol, Supervisor.Keeps (spawn symbol) P) (tag : String) (executable : Path)
    (timeoutSeconds : Nat) : (supervised tag spawn executable timeoutSeconds).Preserves P := by
  intro symbol paths s hs
  have hkept := Supervisor.preserves_probe (hspawn symbol) executable timeoutSeconds paths hs
  change P ((Supervisor.probe (spawn symbol) executable timeoutSeconds paths s).getD _).2
  rcases hprobe : Supervisor.probe (spawn symbol) executable timeoutSeconds paths s with _ | r
  · exact hs
  · exact hkept r hprobe

namespace Scanner

theorem preserves_ask {ps : List (Probe σ)} (hps : ∀ q ∈ ps, q.Preserves P) (symbol : String)
    (paths : List Path) {s : σ} (hs : P s) : P (ask symbol paths ps s).2 := by
  induction ps generalizing s with
  | nil => exact hs
  | cons q ps ih =>
    obtain ⟨hfirst, hrest⟩ := List.forall_mem_cons.mp hps
    exact ih hrest (hfirst symbol paths s hs)

theorem mem_consulted {ps : List (Probe σ)} {kind : PluginKind} {q : Probe σ}
    (hq : q ∈ consulted kind ps) : q ∈ ps := by
  cases kind with
  | ladspa => exact List.mem_of_mem_take hq
  | vamp => exact hq

theorem preserves_scanFiles {ps : List (Probe σ)} (hps : ∀ q ∈ ps, q.Preserves P)
    (kind : PluginKind) (files : List Path) {s : σ} (hs : P s) :
    P (scanFiles ps kind files s).2 := by
  unfold scanFiles
  dsimp only
  split
  · exact hs
  · exact preserves_ask (fun q hq => hps q (mem_consulted hq)) _ _ hs

/-- What all checkers of a scanner keep, a scan keeps. -/
theorem preserves_scan {s : Scanner} {P : Machine → Prop} (hps : ∀ q ∈ s.probes, q.Preserves P)
    (kind : PluginKind) {m : Machine} (hm : P m) : P (s.scan kind m).2 :=
  preserves_scanFiles hps kind _ hm

end Scanner

/-! ## Checking and nothing else -/

namespace Probe

/-- A checker does nothing to a machine but checking libraries and changing files. -/
def ChecksOnly (q : Probe Machine) : Prop := ∀ m, q.Preserves (Machine.Probed m)

/-- A checker changes no file of a tree. -/
def Leaves (q : Probe Machine) (t : FileTree) : Prop := q.Preserves fun m => m.files = t

theorem checksOnly_inProcess (tag : String) : (inProcess tag).ChecksOnly := fun _ =>
  preserves_ofLoader (fun symbol p _ hm => .check hm symbol p) tag

theorem checksOnly_failing (tag : String) (e : ProbeError) : (failing tag e).ChecksOnly :=
  fun _ _ _ _ hm => hm

theorem checksOnly_pure (tag : String) (verdict : String → Path → Verdict) :
    (pure tag verdict).ChecksOnly :=
  fun _ _ _ _ hm => hm

theorem leaves_inProcess (tag : String) (t : FileTree) : (inProcess tag).Leaves t :=
  preserves_ofLoader (fun symbol p m hm => (Machine.files_check m symbol p).trans hm) tag

/-- A program that is started changes files at most, whether it is killed or left alone. -/
theorem probed_run (program : Program) (env : Environment) (patience : Nat) (symbol : String)
    (requests : List String) {m m' : Machine} (hm : Machine.Probed m m') :
    (program.run env patience symbol requests m').Yields (Machine.Probed m) := by
  have hsame (t : Transcript) : Started.Yields ⟨t, m', some m'⟩ (Machine.Probed m) :=
    ⟨hm, fun _ hleft => Option.some.inj hleft ▸ hm⟩
  unfold Program.run
  split
  · exact hsame _
  · split
    · exact hsame _
    · exact hsame _
    · dsimp only
      split
      · refine ⟨.files hm _, ?_⟩
        split <;> simp [Machine.Probed.files hm]
      · refine ⟨.files hm _, ?_⟩
        split <;> simp [Machine.Probed.files hm]

theorem checksOnly_program (h : Helper) (env : Environment) (patience : Nat) :
    (program h env patience).ChecksOnly := by
  intro m
  refine preserves_supervised (fun symbol requests m' hm => ?_) h.tag _ _
  unfold Program.start
  split
  · exact hm
  · exact probed_run _ _ _ _ requests hm

theorem checksOnly_bundled (tag : String) (patience : Nat) :
    (bundled tag patience).ChecksOnly := by
  intro m
  refine preserves_supervised (fun symbol requests m' hm => ?_) tag _ _
  exact probed_run .checker [] patience symbol requests hm

/-- The program that lies beside the host changes no files. -/
theorem leaves_bundled (tag : String) (patience : Nat) (t : FileTree) :
    (bundled tag patience).Leaves t := by
  refine preserves_supervised (fun symbol requests m hm => ?_) tag _ _
  change (Program.checker.run [] patience symbol requests m).Yields fun m => m.files = t
  unfold Program.run
  split <;> exact ⟨hm, fun _ hleft => Option.some.inj hleft ▸ hm⟩

end Probe

/-- Every checker that settings ask for does nothing but checking. -/
theorem Scanner.checksOnly_ofSettings (s : PluginSettings) (env : Environment) (bundled : Bool) :
    ∀ q ∈ (ofSettings s env bundled).probes, q.ChecksOnly := by
  intro q hq
  have hasked : q ∈ probesOf s env bundled := mem_of_mem_distinct hq
  unfold probesOf at hasked
  dsimp only at hasked
  split at hasked
  · rw [List.mem_singleton.mp hasked]
    exact Probe.checksOnly_inProcess _
  · split at hasked
    · obtain ⟨h, _, rfl⟩ := List.mem_map.mp hasked
      exact Probe.checksOnly_program h env _
    · split at hasked
      · rw [List.mem_singleton.mp hasked]
        exact Probe.checksOnly_bundled _ _
      · cases hasked

end AudioHost
