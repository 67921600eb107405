import Mathlib.Data.List.Forall2
import AudioHost.Proofs.Discovery.Answering
import AudioHost.Proofs.Discovery.Listing

/-!
What checkers make of the files that are listed. Each file is a candidate, by the first checker that
passes it, or it is a failure for each checker that was asked.
-/

namespace AudioHost

theorem Status.passes_eq (s : Status) : s.passes = decide (s = .loadable ∨ s = .unknown) := by
  cases s <;> rfl

namespace Scanner

variable {σ : Type} {symbol : String} {files : List Path} {ps : List (Probe σ)} {s s' : σ}
variable {o : Opinion} {os : List Opinion} {p : Path} {kind : PluginKind}

/-! ## Opinions -/

/-- What checkers say of files when they are asked one after the other. One that cannot run leaves
every file without an answer. -/
inductive Asked (symbol : String) (files : List Path) :
    List (Probe σ) → σ → List Opinion → σ → Prop
  | done {s : σ} : Asked symbol files [] s [] s
  | answered {q : Probe σ} {ps : List (Probe σ)} {s s₁ s₂ : σ} {vs : List Verdict}
    {os : List Opinion} (hcheck : q.check symbol files s = (.ok vs, s₁))
    (hrest : Asked symbol files ps s₁ os s₂) :
    Asked symbol files (q :: ps) s (⟨q.tag, vs, true⟩ :: os) s₂
  | unable {q : Probe σ} {ps : List (Probe σ)} {s s₁ s₂ : σ} {e : ProbeError}
    {os : List Opinion} (hcheck : q.check symbol files s = (.error e, s₁))
    (hrest : Asked symbol files ps s₁ os s₂) :
    Asked symbol files (q :: ps) s
      (⟨q.tag, files.map fun p => ⟨p, .unknown, e.message⟩, false⟩ :: os) s₂

theorem asked_ask (symbol : String) (files : List Path) (ps : List (Probe σ)) (s : σ) :
    Asked symbol files ps s (ask symbol files ps s).1 (ask symbol files ps s).2 := by
  induction ps generalizing s with
  | nil => exact .done
  | cons q ps ih =>
    unfold ask
    rcases hcheck : q.check symbol files s with ⟨e | vs, s₁⟩
    · exact .unable hcheck (ih s₁)
    · exact .answered hcheck (ih s₁)

/-- An opinion has a verdict on each file, in order. -/
def Opinion.Covers (o : Opinion) (files : List Path) : Prop :=
  List.Forall₂ (fun p v => v.path.same p = true) files o.verdicts

theorem covers_unable (tag : String) (files : List Path) (message : String) :
    Opinion.Covers ⟨tag, files.map fun p => ⟨p, .unknown, message⟩, false⟩ files := by
  unfold Opinion.Covers
  induction files with
  | nil => exact .nil
  | cons p files ih => exact .cons (Path.same_refl p) ih

theorem Asked.covers (h : Asked symbol files ps s os s') (hps : ∀ q ∈ ps, q.Answers) :
    ∀ o ∈ os, o.Covers files := by
  induction h with
  | done => simp
  | @answered q ps s s₁ s₂ vs os hcheck _ ih =>
    rw [List.forall_mem_cons] at hps ⊢
    exact ⟨hps.1 symbol files s vs (by rw [hcheck]), ih hps.2⟩
  | unable hcheck _ ih =>
    rw [List.forall_mem_cons] at hps ⊢
    exact ⟨covers_unable _ _ _, ih hps.2⟩

/-- A verdict of an opinion passes a file: the file is loadable, or there is no answer. -/
def Opinion.passes (o : Opinion) (p : Path) : Bool :=
  o.verdicts.any fun v => decide (v.status = .loadable ∨ v.status = .unknown) && v.path.same p

theorem Opinion.passes_eq (o : Opinion) (p : Path) :
    o.passes p = o.verdicts.any fun v => v.status.passes && v.path.same p := by
  simp only [passes, Status.passes_eq]

theorem Opinion.passes_congr {q : Path} (h : p.same q = true) : o.passes p = o.passes q := by
  unfold passes
  congr 1
  funext v
  rw [Path.same_comm v.path p, Path.same_comm v.path q, Path.same_congr h]

theorem any_passes_congr {q : Path} (h : p.same q = true) (os : List Opinion) :
    (os.any fun o => o.passes p) = os.any fun o => o.passes q := by
  congr 1
  funext o
  exact Opinion.passes_congr h

/-- A verdict is on one of the files. -/
theorem Opinion.Covers.mem (h : o.Covers files) {v : Verdict} (hv : v ∈ o.verdicts) :
    ∃ p ∈ files, v.path.same p = true := by
  obtain ⟨i, hi, rfl⟩ := List.getElem_of_mem hv
  have hlength := h.length_eq
  exact ⟨files[i], List.getElem_mem (by omega), List.Forall₂.get h (by omega) hi⟩

/-- Every file has a verdict. -/
theorem Opinion.Covers.verdict (h : o.Covers files) (hp : p ∈ files) :
    ∃ v ∈ o.verdicts, v.path.same p = true := by
  obtain ⟨i, hi, rfl⟩ := List.getElem_of_mem hp
  have hlength := h.length_eq
  have hi' : i < o.verdicts.length := by omega
  exact ⟨o.verdicts[i], List.getElem_mem hi', List.Forall₂.get h hi hi'⟩

/-! ## Candidates -/

/-- The candidate that opinions make of a file: the first one that passes it gives the tag. -/
def candidate? (os : List Opinion) (p : Path) : Option Candidate :=
  (os.find? fun o => o.passes p).map fun o => ⟨p, o.tag⟩

theorem find?_tagged (os : List Opinion) (p : Path) :
    ((passed os).find? fun e => e.2.path.same p).map Prod.fst =
      (os.find? fun o => o.passes p).map Opinion.tag := by
  induction os with
  | nil => rfl
  | cons o os ih =>
    have hsplit : passed (o :: os) =
        (o.verdicts.map fun v => (o.tag, v)).filter (fun e => e.2.status.passes) ++ passed os := by
      simp only [passed, tagged, List.flatMap_cons, List.filter_append]
    have hown : ((o.verdicts.map fun v => (o.tag, v)).filter
        fun e => e.2.status.passes).find? (fun e => e.2.path.same p) =
        (o.verdicts.find? fun v => v.status.passes && v.path.same p).map fun v => (o.tag, v) := by
      rw [List.find?_filter, List.find?_map]
      congr 2
      funext v
      simp
    rw [hsplit, List.find?_append, hown, List.find?_cons]
    have hpasses : o.passes p =
        (o.verdicts.find? fun v => v.status.passes && v.path.same p).isSome := by
      rw [List.isSome_find?, Opinion.passes_eq]
    rcases hfirst : (o.verdicts.find? fun v => v.status.passes && v.path.same p) with _ | v
    · rw [hpasses, hfirst]
      exact ih
    · rw [hpasses, hfirst]
      rfl

/-- Verdicts that were used up for one file are on no other. -/
theorem accepted_eq (passes : List (String × Verdict))
    (hapart : files.Pairwise fun p q => p.same q = false) :
    accepted passes files = files.filterMap fun p =>
      (passes.find? fun e => e.2.path.same p).map fun e => ⟨p, e.1⟩ := by
  induction files generalizing passes with
  | nil => rfl
  | cons p files ih =>
    obtain ⟨hfirst, hrest⟩ := List.pairwise_cons.mp hapart
    rw [List.filterMap_cons]
    unfold accepted
    rcases hfound : (passes.find? fun e => e.2.path.same p) with _ | ⟨tag, v⟩
    · rw [hfound]
      exact ih passes hrest
    · rw [hfound]
      refine congrArg (_ :: ·) ((ih _ hrest).trans ?_)
      refine List.filterMap_congr fun q hq => ?_
      -- What is taken away was on this file, and no other file is the same.
      have hother : (passes.filter fun e => !e.2.path.same p).find? (fun e => e.2.path.same q) =
          passes.find? fun e => e.2.path.same q := by
        rw [List.find?_filter]
        congr 1
        funext e
        rcases hsame : e.2.path.same p with _ | _
        · simp
        · rw [Path.same_congr hsame, hfirst q hq]
          rfl
      rw [hother]

theorem candidates_judge (kind : PluginKind) (os : List Opinion)
    (hapart : files.Pairwise fun p q => p.same q = false) :
    (judge kind files os).candidates = files.filterMap (candidate? os) := by
  refine (accepted_eq (passed os) hapart).trans (List.filterMap_congr fun p _ => ?_)
  have htag := find?_tagged os p
  have hcandidate : ∀ {α : Type} (found : Option α) (tag : α → String),
      (found.map fun e => (⟨p, tag e⟩ : Candidate)) = (found.map tag).map fun tag => ⟨p, tag⟩ := by
    intro α found tag
    rw [Option.map_map]
    rfl
  rw [candidate?, hcandidate _ Prod.fst, hcandidate _ Opinion.tag, htag]

/-- A file is among the candidates if an opinion passes it. -/
theorem any_candidate (hp : ∃ q ∈ files, p.same q = true) :
    (files.filterMap (candidate? os)).any (fun c => c.path.same p) =
      os.any fun o => o.passes p := by
  rw [Bool.eq_iff_iff, List.any_eq_true, List.any_eq_true]
  constructor
  · rintro ⟨c, hc, hsame⟩
    obtain ⟨q, _, hcandidate⟩ := List.mem_filterMap.mp hc
    obtain ⟨o, ho, rfl⟩ := Option.map_eq_some_iff.mp hcandidate
    refine ⟨o, List.mem_of_find?_eq_some ho, ?_⟩
    have hpasses := List.find?_some ho
    rw [← Opinion.passes_congr hsame]
    exact hpasses
  · rintro ⟨o, ho, hpasses⟩
    obtain ⟨q, hq, hsame⟩ := hp
    rw [Opinion.passes_congr hsame] at hpasses
    have hsome : (os.find? fun o => o.passes q).isSome := List.find?_isSome.mpr ⟨o, ho, hpasses⟩
    obtain ⟨o', ho'⟩ := Option.isSome_iff_exists.mp hsome
    refine ⟨⟨q, o'.tag⟩, List.mem_filterMap.mpr ⟨q, hq, ?_⟩, ?_⟩
    · rw [candidate?, ho']
      rfl
    · rw [Path.same_comm]
      exact hsame

/-! ## Failures -/

/-- The failures that come from an opinion: what it says against files that no opinion passes. -/
def rejections (kind : PluginKind) (os : List Opinion) (o : Opinion) : List ScanFailure :=
  let against := fun v : Verdict => decide (v.status ≠ .loadable ∧ v.status ≠ .unknown)
  (o.verdicts.filter fun v => against v && !os.any fun o => o.passes v.path).map fun v =>
    ⟨kind, v.path, o.tag, v.status, v.message⟩

theorem rejections_eq (kind : PluginKind) (os : List Opinion) (o : Opinion) :
    rejections kind os o =
      (o.verdicts.filter fun v => !v.status.passes && !os.any fun o => o.passes v.path).map
        fun v => ⟨kind, v.path, o.tag, v.status, v.message⟩ := by
  simp only [rejections, Status.passes_eq, Bool.decide_or, Bool.decide_and, Bool.not_or,
    decide_not, ne_eq]

theorem failures_judge (kind : PluginKind)
    (hapart : files.Pairwise fun p q => p.same q = false) (hcovers : ∀ o ∈ os, o.Covers files) :
    (judge kind files os).failures = os.flatMap (rejections kind os) := by
  have hcandidates := candidates_judge kind os hapart
  unfold judge at hcandidates ⊢
  dsimp only at hcandidates ⊢
  rw [hcandidates]
  simp only [refused, tagged, List.filter_flatMap, List.map_flatMap]
  refine List.flatMap_congr fun o ho => ?_
  rw [rejections_eq, List.filter_filter, List.filter_map, List.map_map]
  refine congrArg (List.map _) (List.filter_congr fun v hv => ?_)
  -- The verdict is on a listed file, so that the candidates tell whether an opinion passes it.
  simp only [Function.comp_apply, any_candidate ((hcovers o ho).mem hv)]
  exact Bool.and_comm _ _

theorem path_of_mem_failures {f : ScanFailure} (hf : f ∈ os.flatMap (rejections kind os)) :
    (os.any fun o => o.passes f.path) = false := by
  obtain ⟨o, _, hf⟩ := List.mem_flatMap.mp hf
  obtain ⟨v, hv, rfl⟩ := List.mem_map.mp hf
  have hrejected := (List.mem_filter.mp hv).2
  rw [Bool.and_eq_true, Bool.not_eq_true'] at hrejected
  simpa using hrejected.2

/-- A file that no opinion passes is a failure for each of them. -/
theorem fails_of_not_passed (hcovers : o.Covers files) (ho : o ∈ os) (hp : p ∈ files)
    (hnone : (os.any fun o => o.passes p) = false) :
    ∃ f ∈ os.flatMap (rejections kind os), f.path.same p = true := by
  obtain ⟨v, hv, hsame⟩ := hcovers.verdict hp
  have hpassed := (any_passes_congr hsame os).trans hnone
  have hrefused : v.status.passes = false := by
    refine Bool.eq_false_iff.mpr fun hpasses => ?_
    rw [List.any_eq_false] at hnone
    refine hnone o ho ?_
    rw [o.passes_eq]
    exact List.any_eq_true.mpr ⟨v, hv, by rw [hpasses, hsame]; rfl⟩
  refine ⟨⟨kind, v.path, o.tag, v.status, v.message⟩, List.mem_flatMap.mpr ⟨o, ho, ?_⟩, hsame⟩
  rw [rejections_eq]
  refine List.mem_map.mpr ⟨v, List.mem_filter.mpr ⟨hv, ?_⟩, rfl⟩
  rw [hrefused, hpassed]
  rfl

/-- Each file is a candidate or a failure, and never both. -/
theorem candidate_or_failure (kind : PluginKind) (hcovers : ∀ o ∈ os, o.Covers files)
    (hos : os ≠ []) (hp : p ∈ files) :
    ((∃ c ∈ files.filterMap (candidate? os), c.path = p) ∧
        ∀ f ∈ os.flatMap (rejections kind os), f.path.same p = false) ∨
      ((∀ c ∈ files.filterMap (candidate? os), c.path.same p = false) ∧
        ∃ f ∈ os.flatMap (rejections kind os), f.path.same p = true) := by
  rcases hpassed : (os.any fun o => o.passes p) with _ | _
  · obtain ⟨o, ho⟩ := List.exists_mem_of_ne_nil os hos
    refine Or.inr ⟨?_, fails_of_not_passed (hcovers o ho) ho hp hpassed⟩
    have hany : (files.filterMap (candidate? os)).any (fun c => c.path.same p) =
        os.any fun o => o.passes p := any_candidate ⟨p, hp, Path.same_refl p⟩
    rw [hpassed, List.any_eq_false] at hany
    exact fun c hc => by simpa using hany c hc
  · refine Or.inl ⟨?_, fun f hf => Bool.eq_false_iff.mpr fun hsame => ?_⟩
    · have hsome : (os.find? fun o => o.passes p).isSome := by
        rw [List.isSome_find?, hpassed]
      obtain ⟨o, ho⟩ := Option.isSome_iff_exists.mp hsome
      refine ⟨⟨p, o.tag⟩, List.mem_filterMap.mpr ⟨p, hp, ?_⟩, rfl⟩
      rw [candidate?, ho]
      rfl
    · have hnone := path_of_mem_failures hf
      rw [any_passes_congr hsame os, hpassed] at hnone
      cases hnone

/-! ## The law -/

theorem Asked.ne_nil (h : Asked symbol files ps s os s') (hps : ps ≠ []) : os ≠ [] := by
  cases h with
  | done => exact absurd rfl hps
  | answered => exact List.cons_ne_nil _ _
  | unable => exact List.cons_ne_nil _ _

/-- What is made of a listing in which no two files are the same. -/
theorem scanFiles_cases (hapart : files.Pairwise fun p q => p.same q = false)
    (hps : ∀ q ∈ ps, q.Answers) (kind : PluginKind) (s : σ) :
    let asked := consulted kind ps
    let r := scanFiles ps kind files s
    ∃ os, (files = [] ∧ os = [] ∧ r.2 = s ∨ files ≠ [] ∧ Asked kind.symbol files asked s os r.2) ∧
      (∀ o ∈ os, o.Covers files) ∧ r.1.candidates = files.filterMap (candidate? os) ∧
      r.1.failures = os.flatMap (rejections kind os) := by
  intro asked r
  have hasked : ∀ q ∈ asked, q.Answers := by
    intro q hq
    refine hps q ?_
    cases kind with
    | ladspa => exact List.mem_of_mem_take hq
    | vamp => exact hq
  by_cases hfiles : files = []
  · subst hfiles
    exact ⟨[], Or.inl ⟨rfl, rfl, rfl⟩, by simp, rfl, rfl⟩
  by_cases hnobody : asked = []
  · have hr : r = (⟨[], [], !asked.isEmpty⟩, s) := by
      refine if_pos ?_
      rw [show consulted kind ps = [] from hnobody, List.isEmpty_nil, Bool.or_true]
    rw [hr, hnobody]
    refine ⟨[], Or.inr ⟨hfiles, .done⟩, by simp, ?_, rfl⟩
    exact (List.filterMap_eq_nil_iff.mpr fun p _ => rfl).symm
  · have hr : r = (judge kind files (ask kind.symbol files asked s).1,
        (ask kind.symbol files asked s).2) := by
      refine if_neg ?_
      simp only [Bool.or_eq_true, List.isEmpty_iff, not_or]
      exact ⟨hfiles, hnobody⟩
    have hall := asked_ask kind.symbol files asked s
    have hcovers := hall.covers hasked
    rw [hr]
    exact ⟨_, Or.inr ⟨hfiles, hall⟩, hcovers, candidates_judge kind _ hapart,
      failures_judge kind hapart hcovers⟩

/-- Whatever is listed: the candidates are the files that a checker passes which was asked, in the
order of the listing, each once and with the tag of the first such checker; and the failures are
what was said against the other files, in the order of the checkers and then of the files. So every
file is a candidate or a failure, and none is both. -/
theorem a_listed_file_is_a_candidate_or_a_failure (s : Scanner)
    (hprobes : ∀ q ∈ s.probes, q.Answers) (kind : PluginKind) (m : Machine) :
    let files := s.listed m.files kind
    let asked := match kind with
      | .ladspa => s.probes.take 1
      | .vamp => s.probes
    let r := (s.scan kind m).1
    files.Pairwise (fun p q => p.same q = false) ∧
      ∃ os, (files = [] ∧ os = [] ∧ (s.scan kind m).2 = m ∨
          files ≠ [] ∧ Asked kind.symbol files asked m os (s.scan kind m).2) ∧
        r.candidates = files.filterMap (candidate? os) ∧
        r.failures = os.flatMap (rejections kind os) ∧
        ∀ p ∈ files, asked ≠ [] →
          ((∃ c ∈ r.candidates, c.path = p) ∧ ∀ f ∈ r.failures, f.path.same p = false) ∨
            ((∀ c ∈ r.candidates, c.path.same p = false) ∧
              ∃ f ∈ r.failures, f.path.same p = true) := by
  intro files asked r
  have hapart : files.Pairwise (fun p q => p.same q = false) := Candidates.apart_ofPattern _ _ _
  obtain ⟨os, hasked, hcovers, hcandidates, hfailures⟩ :=
    scanFiles_cases hapart hprobes kind m
  have hsame : consulted kind s.probes = asked := rfl
  refine ⟨hapart, os, hsame ▸ hasked, hcandidates, hfailures, fun p hp hsome => ?_⟩
  have hos : os ≠ [] := by
    obtain ⟨hnone, _⟩ | ⟨_, hall⟩ := hasked
    · rw [show files = [] from hnone] at hp
      cases hp
    · exact hall.ne_nil hsome
  have heither := candidate_or_failure kind hcovers hos hp
  rw [← hcandidates, ← hfailures] at heither
  exact heither

/-- A checker that passes one path. -/
def passing {σ : Type} (tag : String) (p : Path) : Probe σ :=
  .pure tag fun _ q => if q = p then .success q else ⟨q, .failedToLoadLibrary, tag⟩

theorem answers_passing {σ : Type} (tag : String) (p : Path) :
    (passing tag p : Probe σ).Answers := by
  refine Probe.answers_pure tag fun symbol q => ?_
  split <;> rfl

/-- A directory with two libraries, and some checkers. -/
def twoLibraries (ps : List (Probe Machine)) : Scanner where
  settings := { PluginSettings.usual with vampPath := some ["d"] }
  environment := []
  probes := ps

/-- Two checkers of which the second one passes the first library. -/
def twoCheckers : List (Probe Machine) := [passing "x" ⟨"d/none.so"⟩, passing "y" ⟨"d/a.so"⟩]

/-- A checker that is stopped before it can answer. -/
def stopped : Probe Machine := .failing "z" (.aborted "enough")

theorem answers_twoCheckers : ∀ q ∈ twoCheckers, q.Answers := by
  unfold twoCheckers
  simp only [List.forall_mem_cons]
  exact ⟨answers_passing _ _, answers_passing _ _, List.forall_mem_nil _⟩

/-- The machine with the directory. -/
def twoFiles : Machine :=
  .start ⟨[(["d".toList], .directory), (["d".toList, "a.so".toList], .file (.bytes []) false),
    (["d".toList, "b.so".toList], .file (.bytes []) false)]⟩ (.start [] .file)

theorem listed_twoLibraries (ps : List (Probe Machine)) :
    (twoLibraries ps).listed twoFiles.files .vamp = [⟨"d/a.so"⟩, ⟨"d/b.so"⟩] := by
  have hpattern : NamePattern.ofText? "*.so" =
      some ⟨[.run, .char '.', .char 's', .char 'o']⟩ := by decide +kernel
  have hdirectories : (twoLibraries ps).directories .vamp = [⟨"d"⟩] := by
    change (twoLibraries []).directories .vamp = [⟨"d"⟩]
    decide +kernel
  unfold listed
  rw [hdirectories]
  exact Candidates.ofPattern_of_sorted hpattern (by decide +kernel) (by decide +kernel)

theorem scan_twoLibraries (ps : List (Probe Machine)) (hps : ps ≠ []) :
    ((twoLibraries ps).scan .vamp twoFiles).1 = judge .vamp [⟨"d/a.so"⟩, ⟨"d/b.so"⟩]
      (ask PluginKind.vamp.symbol [⟨"d/a.so"⟩, ⟨"d/b.so"⟩] ps twoFiles).1 := by
  unfold scan
  rw [listed_twoLibraries]
  cases ps with
  | nil => exact absurd rfl hps
  | cons q ps => rfl

/-- One library is a candidate although a checker refuses it, and the other one fails twice. A third
checker that is stopped has no answer, and so it passes the other one, too. -/
theorem the_second_checker_passes_the_first_library :
    let few := ((twoLibraries twoCheckers).scan .vamp twoFiles).1
    let more := ((twoLibraries (twoCheckers ++ [stopped])).scan .vamp twoFiles).1
    (∀ q ∈ twoCheckers, q.Answers) ∧ few.candidates = [⟨⟨"d/a.so"⟩, "y"⟩] ∧
      few.failures = [⟨.vamp, ⟨"d/b.so"⟩, "x", .failedToLoadLibrary, "x"⟩,
        ⟨.vamp, ⟨"d/b.so"⟩, "y", .failedToLoadLibrary, "y"⟩] ∧
      (∀ c ∈ few.candidates, c.path.same ⟨"d/b.so"⟩ = false) ∧
      more.candidates = [⟨⟨"d/a.so"⟩, "y"⟩, ⟨⟨"d/b.so"⟩, "z"⟩] ∧ more.failures = [] := by
  intro few more
  have hcandidates : few.candidates = [⟨⟨"d/a.so"⟩, "y"⟩] := by
    unfold few
    rw [scan_twoLibraries twoCheckers (List.cons_ne_nil _ _)]
    decide +kernel
  have hfailures : few.failures = [⟨.vamp, ⟨"d/b.so"⟩, "x", .failedToLoadLibrary, "x"⟩,
      ⟨.vamp, ⟨"d/b.so"⟩, "y", .failedToLoadLibrary, "y"⟩] := by
    unfold few
    rw [scan_twoLibraries twoCheckers (List.cons_ne_nil _ _)]
    decide +kernel
  have hcandidates' : more.candidates = [⟨⟨"d/a.so"⟩, "y"⟩, ⟨⟨"d/b.so"⟩, "z"⟩] := by
    unfold more
    rw [scan_twoLibraries (twoCheckers ++ [stopped]) (List.cons_ne_nil _ _)]
    decide +kernel
  have hfailures' : more.failures = [] := by
    unfold more
    rw [scan_twoLibraries (twoCheckers ++ [stopped]) (List.cons_ne_nil _ _)]
    decide +kernel
  refine ⟨answers_twoCheckers, hcandidates, hfailures, ?_, hcandidates', hfailures'⟩
  have hmem : ⟨"d/b.so"⟩ ∈ (twoLibraries twoCheckers).listed twoFiles.files .vamp := by
    rw [listed_twoLibraries]
    simp
  obtain ⟨_, os, _, _, _, heither⟩ :=
    a_listed_file_is_a_candidate_or_a_failure (twoLibraries twoCheckers) answers_twoCheckers .vamp
      twoFiles
  obtain ⟨⟨c, hc, hpath⟩, _⟩ | ⟨hnone, _⟩ := heither _ hmem (List.cons_ne_nil _ _)
  · change c ∈ few.candidates at hc
    rw [hcandidates, List.mem_singleton] at hc
    subst hc
    exact absurd hpath (by decide)
  · exact hnone

end Scanner

end AudioHost
