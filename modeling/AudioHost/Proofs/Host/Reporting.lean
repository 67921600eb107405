import AudioHost.Proofs.Discovery.Judging
import AudioHost.Proofs.Host.Scanning

/-!
When a scan is reported to have failed. What decides are the answers to all calls of checkers, and
whether there were files of every kind to call them for.
-/

namespace AudioHost

namespace Scanner

variable {σ : Type}

/-! ## Calls of checkers -/

/-- The answers of checkers that are called one after the other. -/
def answers (symbol : String) (files : List Path) :
    List (Probe σ) → σ → List (Except ProbeError (List Verdict))
  | [], _ => []
  | q :: ps, s =>
    let (answer, s) := q.check symbol files s
    answer :: answers symbol files ps s

theorem ran_opinionOf (tag : String) (files : List Path)
    (answer : Except ProbeError (List Verdict)) :
    (opinionOf tag files answer).ran = answer.isOk := by
  cases answer <;> rfl

/-- Each opinion comes from one call, and counts as one of a checker that ran if it was answered. -/
theorem map_ran_ask (symbol : String) (files : List Path) (ps : List (Probe σ)) (s : σ) :
    (ask symbol files ps s).1.map Opinion.ran = (answers symbol files ps s).map Except.isOk := by
  induction ps generalizing s with
  | nil => rfl
  | cons q ps ih =>
    unfold ask answers
    rw [List.map_cons, List.map_cons, ran_opinionOf, ih]

theorem any_ran_ask (symbol : String) (files : List Path) (ps : List (Probe σ)) (s : σ) :
    (ask symbol files ps s).1.any Opinion.ran = (answers symbol files ps s).any Except.isOk := by
  have hany := congrArg (List.any · id) (map_ran_ask symbol files ps s)
  simpa only [List.any_map, Function.id_comp] using hany

/-- The answers to all calls of checkers in a scan for a kind. Without files nobody is called. -/
def calls (s : Scanner) (kind : PluginKind) (m : Machine) :
    List (Except ProbeError (List Verdict)) :=
  let files := s.listed m.files kind
  if files = [] then [] else answers kind.symbol files (consulted kind s.probes) m

theorem consulted_eq_nil_iff (kind : PluginKind) (ps : List (Probe σ)) :
    consulted kind ps = [] ↔ ps = [] := by
  cases kind with
  | ladspa => simp [consulted]
  | vamp => rfl

/-- A scan for a kind counts as one in which a checker ran if a call was answered, or if there was
nothing to call checkers for. -/
theorem probed_scan_iff (s : Scanner) (kind : PluginKind) (m : Machine) :
    (s.scan kind m).1.probed = true ↔ s.probes ≠ [] ∧
      (s.listed m.files kind = [] ∨ ∃ answer ∈ s.calls kind m, answer.isOk = true) := by
  unfold scan scanFiles calls
  dsimp only
  generalize s.listed m.files kind = files
  rw [ne_eq, ← consulted_eq_nil_iff kind]
  generalize consulted kind s.probes = asked
  -- The two guards in turn: there are no files, or nobody to ask.
  by_cases hfiles : files = []
  · simp [hfiles]
  · by_cases hasked : asked = []
    · simp [hasked]
    · have hsome : ¬ (files.isEmpty || asked.isEmpty) = true := by simp [hfiles, hasked]
      rw [if_neg hsome, if_neg hfiles]
      dsimp only
      rw [judge, any_ran_ask, List.any_eq_true]
      simp [hfiles, hasked]

end Scanner

namespace Host

variable {h : Host} {l : TableLoader Machine}

/-! ## Rounds -/

/-- The rounds of a scan: each kind with the host as it is when the scan comes to the kind. -/
def rounds (l : TableLoader Machine) : List PluginKind → Host → List (PluginKind × Host)
  | [], _ => []
  | kind :: kinds, h => (kind, h) :: rounds l kinds (scanKind l kind h .begun).2

/-- A scan for a kind notes in the report if it counts as one in which a checker ran. It keeps the
scanner, and what it does to the host does not depend on the report. -/
theorem scanKind_notes (l : TableLoader Machine) (kind : PluginKind) (h : Host) (r : ScanReport) :
    (scanKind l kind h r).1.succeeded =
        (r.succeeded || (h.scanner.scan kind h.machine).1.probed) ∧
      (scanKind l kind h r).2.scanner = h.scanner ∧
      ∀ r', (scanKind l kind h r').2 = (scanKind l kind h r).2 := by
  unfold scanKind
  dsimp only
  split
  · exact ⟨rfl, rfl, fun _ => rfl⟩
  · exact ⟨rfl, rfl, fun _ => rfl⟩

theorem succeeded_foldl (l : TableLoader Machine) (kinds : List PluginKind) (r : ScanReport)
    (h : Host) : (kinds.foldl (fun (r, h) kind => scanKind l kind h r) (r, h)).1.succeeded =
      (r.succeeded ||
        (rounds l kinds h).any fun e => (e.2.scanner.scan e.1 e.2.machine).1.probed) := by
  induction kinds generalizing r h with
  | nil => simp [rounds]
  | cons kind kinds ih =>
    obtain ⟨hsucceeded, _, _⟩ := scanKind_notes l kind h r
    -- The rounds start from reports that are empty, and the fold hands its report on.
    have hsame := (scanKind_notes l kind h .begun).2.2 r
    unfold rounds
    rw [List.foldl_cons, List.any_cons, ih, hsucceeded, hsame, Bool.or_assoc]

/-- No round changes the scanner. -/
theorem scanner_of_mem_rounds {kinds : List PluginKind} {e : PluginKind × Host}
    (he : e ∈ rounds l kinds h) : e.2.scanner = h.scanner := by
  induction kinds generalizing h with
  | nil => cases he
  | cons kind kinds ih =>
    rcases List.mem_cons.mp he with rfl | he
    · rfl
    · rw [ih he, (scanKind_notes l kind h .begun).2.1]

theorem machine_scanKind (hprobes : h.scanner.probes ≠ []) (kind : PluginKind) (r : ScanReport) :
    (scanKind l kind h r).2.machine = (Enumeration.ofLoader l kind
      (h.scanner.scan kind h.machine).1.candidates (h.scanner.scan kind h.machine).2).2 := by
  rw [scanKind_enumerates l hprobes]
  rfl

/-- The files that a round lists. -/
def filesOf (e : PluginKind × Host) : List Path :=
  e.2.scanner.listed e.2.machine.files e.1

/-- The answers to all calls of checkers in a scan. -/
def calls (h : Host) (l : TableLoader Machine) : List (Except ProbeError (List Verdict)) :=
  (rounds l PluginKind.all h).flatMap fun e => e.2.scanner.calls e.1 e.2.machine

theorem succeeded_scanWith_iff (h : Host) (l : TableLoader Machine) :
    (h.scanWith l).1.succeeded = true ↔ h.scanner.probes ≠ [] ∧
      ((∃ e ∈ rounds l PluginKind.all h, filesOf e = []) ∨
        ∃ answer ∈ h.calls l, answer.isOk = true) := by
  have hscan : (h.scanWith l).1.succeeded = (rounds l PluginKind.all h).any fun e =>
      (e.2.scanner.scan e.1 e.2.machine).1.probed := succeeded_foldl l PluginKind.all .begun h
  rw [hscan, List.any_eq_true]
  simp only [Scanner.probed_scan_iff, calls, List.mem_flatMap, filesOf]
  constructor
  · rintro ⟨e, he, hprobes, hround⟩
    rw [scanner_of_mem_rounds he] at hprobes
    refine ⟨hprobes, ?_⟩
    rcases hround with hfiles | ⟨answer, hanswer, hok⟩
    · exact Or.inl ⟨e, he, hfiles⟩
    · exact Or.inr ⟨answer, ⟨e, he, hanswer⟩, hok⟩
  · rintro ⟨hprobes, ⟨e, he, hfiles⟩ | ⟨answer, ⟨e, he, hanswer⟩, hok⟩⟩
    · exact ⟨e, he, scanner_of_mem_rounds he ▸ hprobes, Or.inl hfiles⟩
    · exact ⟨e, he, scanner_of_mem_rounds he ▸ hprobes, Or.inr ⟨answer, hanswer, hok⟩⟩

end Host

namespace ScanReport

/-- The text on libraries that were left out is another one, whatever it lists. -/
theorem ne_noChecker (lines ending : String) :
    "Failed to load one or more plugin libraries:\n" ++ lines ++ ending ≠ noChecker := by
  intro htext
  have hchar : ("Failed to load one or more plugin libraries:\n" ++ lines ++ ending).toList[10]? =
      noChecker.toList[10]? := by rw [htext]
  rw [String.toList_append, String.toList_append, List.append_assoc,
    List.getElem?_append_left (by decide)] at hchar
  revert hchar
  decide +kernel

theorem failureText?_eq_noChecker_iff (r : ScanReport) :
    r.failureText? = some noChecker ↔ r.succeeded = false := by
  unfold failureText?
  by_cases hr : r.succeeded = true
  · by_cases hfailures : r.failures.isEmpty = true
    · simp [hr, hfailures]
    · simp [hr, hfailures, ne_noChecker]
  · simp [hr]

end ScanReport

namespace Host

/-! ## The law -/

/-- A scan is reported as one in which no checker could run just if there are no checkers, or if
every kind had files and no call of a checker was answered. A kind without files hides it that all
calls failed. -/
theorem a_scan_fails_just_if_all_kinds_have_files_and_no_call_is_answered (h : Host)
    (l : TableLoader Machine) :
    let r := (h.scanWith l).1
    (r.succeeded = false ↔ h.scanner.probes = [] ∨
      (∀ e ∈ rounds l PluginKind.all h, filesOf e ≠ []) ∧
        ∀ answer ∈ h.calls l, ∃ e, answer = .error e) ∧
    (r.failureText? = some ScanReport.noChecker ↔ r.succeeded = false) ∧
    (h.scanWith l).2.failureText? = r.failureText? := by
  intro r
  refine ⟨?_, r.failureText?_eq_noChecker_iff, ?_⟩
  · have herror : ∀ answer : Except ProbeError (List Verdict),
        (∃ e, answer = .error e) ↔ ¬ answer.isOk = true := by
      intro answer
      cases answer <;> simp [Except.isOk, Except.toBool]
    rw [← Bool.not_eq_true, succeeded_scanWith_iff]
    simp only [herror]
    by_cases hprobes : h.scanner.probes = []
    · simp [hprobes]
    · simp [hprobes]
  · rfl

/-- A host with a checker that cannot be started, and libraries for analysers only. -/
def withoutEffects : Host := .start
  { settings := { PluginSettings.usual with ladspaPath := some ["l"], vampPath := some ["d"] }
    environment := []
    probes := [.failing "x" (.spawn ⟨"x"⟩ "gone")] } none Scanner.twoFiles

theorem listed_withoutEffects :
    withoutEffects.scanner.listed Scanner.twoFiles.files .ladspa = [] ∧
      withoutEffects.scanner.listed Scanner.twoFiles.files .vamp =
        [⟨"d/a.so"⟩, ⟨"d/b.so"⟩] := by
  refine ⟨?_, Scanner.listed_twoLibraries []⟩
  have hpattern : NamePattern.ofText? "*.so" =
      some ⟨[.run, .char '.', .char 's', .char 'o']⟩ := by decide +kernel
  have hdirectories : withoutEffects.scanner.directories .ladspa = [⟨"l"⟩] := by decide +kernel
  unfold Scanner.listed
  rw [hdirectories]
  exact Candidates.ofPattern_of_sorted hpattern (by decide +kernel) (by decide +kernel)

/-- The one call of a checker fails, and the scan is not reported as failed. -/
theorem a_failed_call_goes_unreported :
    withoutEffects.calls Machine.tableLoader = [.error (.spawn ⟨"x"⟩ "gone")] ∧
      withoutEffects.scan.1.succeeded = true ∧
      withoutEffects.scan.2.failureText? ≠ some ScanReport.noChecker := by
  obtain ⟨heffects, hanalysers⟩ := listed_withoutEffects
  have hfiles : withoutEffects.machine.files = Scanner.twoFiles.files := rfl
  have hfirst : withoutEffects.scanner.scan .ladspa withoutEffects.machine =
      (⟨[], [], true⟩, withoutEffects.machine) := by
    unfold Scanner.scan
    rw [hfiles, heffects]
    rfl
  have hmachine : (scanKind Machine.tableLoader .ladspa withoutEffects .begun).2.machine =
      withoutEffects.machine := by
    rw [machine_scanKind (List.cons_ne_nil _ _), hfirst]
    rfl
  have hcalls : withoutEffects.calls Machine.tableLoader = [.error (.spawn ⟨"x"⟩ "gone")] := by
    unfold calls PluginKind.all rounds rounds rounds
    rw [List.flatMap_cons, List.flatMap_cons, List.flatMap_nil, hmachine,
      (scanKind_notes _ _ _ _).2.1]
    unfold Scanner.calls
    rw [hfiles, heffects, hanalysers]
    rfl
  have hsucceeded : withoutEffects.scan.1.succeeded = true := by
    unfold scan
    rw [succeeded_scanWith_iff]
    refine ⟨List.cons_ne_nil _ _, Or.inl ⟨(.ladspa, withoutEffects), List.mem_cons_self, ?_⟩⟩
    exact heffects
  refine ⟨hcalls, hsucceeded, ?_⟩
  show withoutEffects.scan.1.failureText? ≠ _
  rw [ne_eq, ScanReport.failureText?_eq_noChecker_iff, hsucceeded]
  exact Bool.noConfusion

end Host

end AudioHost
