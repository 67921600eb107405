import Mathlib.Data.List.Pairwise
import AudioHost.Proofs.Discovery.Checking
import AudioHost.Proofs.Discovery.Copies
import AudioHost.Proofs.Discovery.Judging

/-!
What becomes of the files that are offered to one checker and then read, both with the same loader.
If what the loader tells depends on the paths alone, each file comes to one thing whenever it is
looked at: it gives all of its records, or it gives one failure.
-/

namespace AudioHost

/-! ## Lists of what elements give -/

/-- Elements that give nothing can be left out. -/
theorem flatMap_filter_eq {α β : Type} {f : α → List β} {keep : α → Bool} {xs : List α}
    (hnothing : ∀ x ∈ xs, keep x = false → f x = []) :
    (xs.filter keep).flatMap f = xs.flatMap f := by
  induction xs with
  | nil => rfl
  | cons x xs ih =>
    obtain ⟨hx, hxs⟩ := List.forall_mem_cons.mp hnothing
    rw [List.flatMap_cons, ← ih hxs]
    rcases hkeep : keep x with _ | _
    · rw [List.filter_cons_of_neg (by simp [hkeep]), hx hkeep, List.nil_append]
    · rw [List.filter_cons_of_pos hkeep, List.flatMap_cons]

/-- What one element gives is found again by a key that tells the elements apart. -/
theorem filter_flatMap_key {α β : Type} [DecidableEq α] {f : α → List β} {key : β → α}
    {xs : List α} (hkey : ∀ x ∈ xs, ∀ y ∈ f x, key y = x) (hxs : xs.Nodup) {x : α} (hx : x ∈ xs) :
    (xs.flatMap f).filter (fun y => key y = x) = f x := by
  induction xs with
  | nil => cases hx
  | cons x' xs ih =>
    obtain ⟨hfirst, hrest⟩ := List.forall_mem_cons.mp hkey
    obtain ⟨hnew, hxs⟩ := List.nodup_cons.mp hxs
    rw [List.flatMap_cons, List.filter_append]
    by_cases heq : x' = x
    · subst heq
      have hown : (f x').filter (fun y => key y = x') = f x' :=
        List.filter_eq_self.mpr fun y hy => decide_eq_true (hfirst y hy)
      have hnone : (xs.flatMap f).filter (fun y => key y = x') = [] := by
        refine List.filter_eq_nil_iff.mpr fun y hy => ?_
        obtain ⟨z, hz, hy⟩ := List.mem_flatMap.mp hy
        rw [hrest z hz y hy, decide_eq_true_eq]
        rintro rfl
        exact hnew hz
      rw [hown, hnone, List.append_nil]
    · have hnone : (f x').filter (fun y => key y = x) = [] := by
        refine List.filter_eq_nil_iff.mpr fun y hy => ?_
        rw [hfirst y hy, decide_eq_true_eq]
        exact heq
      rw [hnone, List.nil_append]
      exact ih hrest hxs ((List.mem_cons.mp hx).resolve_left fun h => heq h.symm)

variable {σ : Type}

/-! ## One file -/

namespace Enumeration

variable {l : TableLoader σ} {kind : PluginKind} {tag : String} {s t : σ} {p : Path}

/-- What a file comes to. Either the checker passes it and it gives a record for each descriptor of
its table, or there is one failure: the checker refuses it, or the checker passes it and its
descriptors cannot all be read. -/
inductive Settled (l : TableLoader σ) (kind : PluginKind) (tag : String) (s : σ) (p : Path) :
    Enumeration → Prop
  | whole {library : l.Library} {s₁ s₂ : σ} {ds : List Descriptor} {records : List Record}
    (hpasses : (l.verdict kind.symbol s p).status.passes = true)
    (hopen : l.openAt p s = (.ok library, s₁))
    (hlookup : l.lookup kind.symbol library s₁ = (.ok (), s₂))
    (hlists : (l.table kind library).Lists ds) (hall : Readable ds)
    (hcopied : List.Forall₂ (fun d r => d.record p = .ok r) ds records) :
    Settled l kind tag s p ⟨records.map Record.identifier, records, []⟩
  | refused (hrefused : (l.verdict kind.symbol s p).status.passes = false) :
    Settled l kind tag s p ⟨[], [], [⟨kind, p, tag, (l.verdict kind.symbol s p).status,
      (l.verdict kind.symbol s p).message⟩]⟩
  | unreadable {library : l.Library} {s₁ s₂ : σ} {ds : List Descriptor} {e : PluginError}
    (hpasses : (l.verdict kind.symbol s p).status.passes = true)
    (hopen : l.openAt p s = (.ok library, s₁))
    (hlookup : l.lookup kind.symbol library s₁ = (.ok (), s₂))
    (hlists : (l.table kind library).Lists ds) (hnot : ¬ Readable ds)
    (hrefused : Refused p ds e) :
    Settled l kind tag s p ⟨[], [], [⟨kind, p, tag, .failedElsewhere, e.message⟩]⟩

/-- What a file comes to when it is looked at in a state. -/
def settlement (l : TableLoader σ) (kind : PluginKind) (tag : String) (s : σ) (p : Path) :
    Enumeration :=
  let v := l.verdict kind.symbol s p
  if v.status.passes then contribution kind ⟨p, tag⟩ (library l kind p s).1
  else ⟨[], [], [⟨kind, p, tag, v.status, v.message⟩]⟩

theorem settlement_of_passes (h : (l.verdict kind.symbol s p).status.passes = true) :
    settlement l kind tag s p = contribution kind ⟨p, tag⟩ (library l kind p s).1 := if_pos h

theorem settlement_of_refused (h : (l.verdict kind.symbol s p).status.passes = false) :
    settlement l kind tag s p = ⟨[], [], [⟨kind, p, tag, (l.verdict kind.symbol s p).status,
      (l.verdict kind.symbol s p).message⟩]⟩ := if_neg (Bool.eq_false_iff.mp h)

theorem settled_settlement (l : TableLoader σ) (kind : PluginKind) (tag : String) (s : σ)
    (p : Path) : Settled l kind tag s p (settlement l kind tag s p) := by
  rcases hpasses : (l.verdict kind.symbol s p).status.passes with _ | _
  · rw [settlement_of_refused hpasses]
    exact .refused hpasses
  · rw [settlement_of_passes hpasses]
    -- A library that is passed can be opened and has the symbol, so only its table can fail it.
    have hverdict := hpasses
    unfold Loader.verdict Loader.check at hverdict
    have hreads := contributes_library l kind ⟨p, tag⟩ s
    generalize contribution kind ⟨p, tag⟩ (library l kind p s).1 = part at hreads ⊢
    generalize (library l kind p s).2 = s' at hreads
    cases hreads with
    | unopened hopen hstatus =>
      rw [hopen] at hverdict
      cases hverdict
    | symbolless hopen hlookup hstatus =>
      simp only [hopen, hlookup] at hverdict
      cases hverdict
    | unreadable hopen hlookup hlists hnot hrefused =>
      exact .unreadable hpasses hopen hlookup hlists hnot hrefused
    | whole hopen hlookup hlists hall hcopied =>
      exact .whole hpasses hopen hlookup hlists hall hcopied

theorem named_settlement (l : TableLoader σ) (kind : PluginKind) (tag : String) (s : σ)
    (p : Path) : Named kind ⟨p, tag⟩ (settlement l kind tag s p) := by
  unfold settlement
  dsimp only
  split
  · exact (contributes_library l kind ⟨p, tag⟩ s).named
  · exact named_nothing kind _ _

theorem Settled.failure {part : Enumeration} (h : Settled l kind tag s p part) {f : ScanFailure}
    (hf : f ∈ part.failures) : f.kind = kind ∧ f.path = p := by
  cases h with
  | whole => cases hf
  | refused =>
    rw [List.mem_singleton.mp hf]
    exact ⟨rfl, rfl⟩
  | unreadable =>
    rw [List.mem_singleton.mp hf]
    exact ⟨rfl, rfl⟩

/-- A file has at most one failure, so that any order of its failures is the same. -/
theorem Settled.failures_eq {part : Enumeration} (h : Settled l kind tag s p part)
    {failures : List ScanFailure} (hperm : failures.Perm part.failures) :
    failures = part.failures := by
  cases h with
  | whole => exact hperm.eq_nil
  | refused => exact List.perm_singleton.mp hperm
  | unreadable => exact List.perm_singleton.mp hperm

/-- A file comes to the same in every usual state. -/
theorem settlement_congr {usual : σ → Prop} (hsteady : l.Steady usual) (hs : usual s)
    (ht : usual t) (kind : PluginKind) (tag : String) (p : Path) :
    settlement l kind tag s p = settlement l kind tag t p := by
  unfold settlement
  rw [(hsteady.checks kind).same p s t hs ht, hsteady.reads kind p hs ht]

/-- Candidates that are read in a row contribute what they contribute alone. -/
theorem ofLoader_steady {usual : σ → Prop} (hsteady : l.Steady usual) (hs : usual s)
    (ht : usual t) (kind : PluginKind) (cs : List Candidate) :
    (ofLoader l kind cs t).1 =
      gathered (cs.map fun c => contribution kind c (library l kind c.path s).1) := by
  induction cs generalizing t with
  | nil => rfl
  | cons c cs ih =>
    have hnext : usual (library l kind c.path t).2 := by
      rw [library_eq_check]
      exact hsteady.keeps_check kind c.path t ht
    simp only [ofLoader, ih hnext, hsteady.reads kind c.path hs ht, List.map_cons]
    rfl

end Enumeration

/-! ## All files -/

namespace Scanner

variable {l : Loader σ} {usual : σ → Prop} {files : List Path} {p q : Path} {s : σ}

theorem eq_of_same (hapart : files.Pairwise fun p q => p.same q = false) (hp : p ∈ files)
    (hq : q ∈ files) (hsame : p.same q = true) : p = q := by
  by_contra hne
  have hsymmetric : Std.Symm fun p q : Path => p.same q = false :=
    ⟨fun p q h => (Path.same_comm q p).trans h⟩
  rw [hapart.forall hp hq hne] at hsame
  cases hsame

/-- A checker that has its own verdict on each file passes a file if this verdict does. -/
theorem passes_one (hapart : files.Pairwise fun p q => p.same q = false) (hp : p ∈ files)
    {verdict : Path → Verdict} (hpath : ∀ q, (verdict q).path = q) (tag : String) :
    Opinion.passes ⟨tag, files.map verdict, true⟩ p = (verdict p).status.passes := by
  rw [Opinion.passes_eq, List.any_map, Bool.eq_iff_iff, List.any_eq_true]
  simp only [Function.comp_apply, hpath, Bool.and_eq_true]
  constructor
  · rintro ⟨q, hq, hpasses, hsame⟩
    rw [← eq_of_same hapart hq hp hsame]
    exact hpasses
  · exact fun hpasses => ⟨p, hp, hpasses, Path.same_refl p⟩

/-- One checker passes some files, and the others fail with its verdicts. -/
theorem judge_one (kind : PluginKind) (hapart : files.Pairwise fun p q => p.same q = false)
    {verdict : Path → Verdict} (hpath : ∀ q, (verdict q).path = q) (tag : String) :
    judge kind files [⟨tag, files.map verdict, true⟩] =
      ⟨(files.filter fun p => (verdict p).status.passes).map fun p => ⟨p, tag⟩,
        (files.filter fun p => !(verdict p).status.passes).map fun p =>
          ⟨kind, p, tag, (verdict p).status, (verdict p).message⟩, true⟩ := by
  let o : Opinion := ⟨tag, files.map verdict, true⟩
  have hcovers : ∀ o' ∈ [o], o'.Covers files := by
    intro o' ho
    rw [List.mem_singleton.mp ho, Opinion.Covers, List.forall₂_map_right_iff, List.forall₂_same]
    intro q _
    rw [hpath]
    exact Path.same_refl q
  have hcandidates : (judge kind files [o]).candidates =
      (files.filter fun p => (verdict p).status.passes).map fun p => ⟨p, tag⟩ := by
    rw [candidates_judge kind [o] hapart, ← List.filterMap_eq_map, List.filterMap_filter]
    refine List.filterMap_congr fun p hp => ?_
    have hpasses : o.passes p = (verdict p).status.passes := passes_one hapart hp hpath tag
    rw [candidate?, List.find?_cons, hpasses]
    cases (verdict p).status.passes <;> rfl
  have hfailures : (judge kind files [o]).failures =
      (files.filter fun p => !(verdict p).status.passes).map fun p =>
        ⟨kind, p, tag, (verdict p).status, (verdict p).message⟩ := by
    have hrefused : files.filter ((fun v => !v.status.passes &&
        !(List.any [o] fun o => o.passes v.path)) ∘ verdict) =
          files.filter fun p => !(verdict p).status.passes := by
      refine List.filter_congr fun p hp => ?_
      have hpasses : o.passes p = (verdict p).status.passes := passes_one hapart hp hpath tag
      simp only [Function.comp_apply, hpath, List.any_cons, hpasses, List.any_nil, Bool.or_false,
        Bool.and_self]
    rw [failures_judge kind hapart hcovers, List.flatMap_singleton, rejections_eq, List.filter_map,
      List.map_map, hrefused]
    refine List.map_congr_left fun p _ => ?_
    simp only [Function.comp_apply, hpath, o]
  exact congrArg₂ (CandidateScan.mk · · true) hcandidates hfailures

theorem consulted_one (kind : PluginKind) (q : Probe σ) : consulted kind [q] = [q] := by
  cases kind <;> rfl

theorem keeps_scanFiles_one {kind : PluginKind} (hsteady : l.Steady kind.symbol usual)
    (hs : usual s) (tag : String) : usual (scanFiles [.ofLoader l tag] kind files s).2 := by
  unfold scanFiles
  rw [consulted_one]
  dsimp only
  split
  · exact hs
  · exact l.preserves_checkAll hsteady.keeps files hs

/-- With one checker that asks a steady loader, the files are judged by what they are in one usual
state. -/
theorem scanFiles_one {kind : PluginKind} (hsteady : l.Steady kind.symbol usual) (hs : usual s)
    (hapart : files.Pairwise fun p q => p.same q = false) (tag : String) :
    (scanFiles [.ofLoader l tag] kind files s).1 =
      ⟨(files.filter fun p => (l.verdict kind.symbol s p).status.passes).map fun p => ⟨p, tag⟩,
        (files.filter fun p => !(l.verdict kind.symbol s p).status.passes).map fun p =>
          ⟨kind, p, tag, (l.verdict kind.symbol s p).status,
            (l.verdict kind.symbol s p).message⟩, true⟩ := by
  unfold scanFiles
  rw [consulted_one]
  by_cases hfiles : files = []
  · subst hfiles
    rfl
  · rw [← judge_one kind hapart (fun q => l.path_verdict kind.symbol s q) tag]
    simp only [hfiles, List.isEmpty_iff, List.isEmpty_cons, Bool.or_false, if_false, ask,
      Probe.ofLoader, opinionOf, hsteady.checkAll_eq hs]

end Scanner

namespace Enumeration

variable {l : TableLoader σ} {kind : PluginKind} {tag : String} {usual : σ → Prop} {s t : σ}
variable {files : List Path} {p : Path}

/-- All that files come to, in order. -/
def settlements (l : TableLoader σ) (kind : PluginKind) (tag : String) (s : σ)
    (files : List Path) : Enumeration := gathered (files.map (settlement l kind tag s))

/-- The failures of files in the order of a report, in which those that the checker refuses come
first. -/
def exclusions (l : TableLoader σ) (kind : PluginKind) (tag : String) (s : σ)
    (files : List Path) : List ScanFailure :=
  let passes := fun p => (l.verdict kind.symbol s p).status.passes
  ((files.filter fun p => !passes p) ++ files.filter passes).flatMap fun p =>
    (settlement l kind tag s p).failures

theorem records_settlements (l : TableLoader σ) (kind : PluginKind) (tag : String) (s : σ)
    (files : List Path) : (settlements l kind tag s files).records =
      files.flatMap fun p => (settlement l kind tag s p).records := List.flatMap_map ..

theorem failures_settlements (l : TableLoader σ) (kind : PluginKind) (tag : String) (s : σ)
    (files : List Path) : (settlements l kind tag s files).failures =
      files.flatMap fun p => (settlement l kind tag s p).failures := List.flatMap_map ..

theorem perm_exclusions (l : TableLoader σ) (kind : PluginKind) (tag : String) (s : σ)
    (files : List Path) :
    (exclusions l kind tag s files).Perm (settlements l kind tag s files).failures := by
  have hsplit := List.perm_append_comm.trans
    (List.filter_append_perm (fun p => (l.verdict kind.symbol s p).status.passes) files)
  rw [failures_settlements]
  exact hsplit.flatMap_right _

theorem settlements_congr (hsteady : l.Steady usual) (hs : usual s) (ht : usual t)
    (kind : PluginKind) (tag : String) (files : List Path) :
    settlements l kind tag s files = settlements l kind tag t files :=
  congrArg gathered
    (List.map_congr_left fun p _ => settlement_congr hsteady hs ht kind tag p)

theorem exclusions_congr (hsteady : l.Steady usual) (hs : usual s) (ht : usual t)
    (kind : PluginKind) (tag : String) (files : List Path) :
    exclusions l kind tag s files = exclusions l kind tag t files := by
  have hverdict : l.verdict kind.symbol s = l.verdict kind.symbol t :=
    funext fun p => (hsteady.checks kind).same p s t hs ht
  unfold exclusions
  rw [hverdict]
  exact List.flatMap_congr fun p _ =>
    congrArg failures (settlement_congr hsteady hs ht kind tag p)

/-- Files that one checker has judged and that are then read give what they come to. -/
theorem ofLoader_scanFiles (hsteady : l.Steady usual) (hs : usual s)
    (hapart : files.Pairwise fun p q => p.same q = false) (kind : PluginKind) (tag : String) :
    let scanned := Scanner.scanFiles [.ofLoader l.toLoader tag] kind files s
    let e := (ofLoader l kind scanned.1.candidates scanned.2).1
    e.identifiers = (settlements l kind tag s files).identifiers ∧
      e.records = (settlements l kind tag s files).records ∧
      scanned.1.failures ++ e.failures = exclusions l kind tag s files ∧
      scanned.1.probed = true ∧ usual (ofLoader l kind scanned.1.candidates scanned.2).2 := by
  intro scanned e
  let passes := fun p => (l.verdict kind.symbol s p).status.passes
  have hscanned : usual scanned.2 := Scanner.keeps_scanFiles_one (hsteady.checks kind) hs tag
  have hjudged : scanned.1 = _ := Scanner.scanFiles_one (hsteady.checks kind) hs hapart tag
  have hread : e = gathered ((files.filter passes).map (settlement l kind tag s)) := by
    refine (ofLoader_steady hsteady hs hscanned kind scanned.1.candidates).trans ?_
    rw [hjudged, List.map_map]
    refine congrArg gathered (List.map_congr_left fun p hp => ?_)
    exact (settlement_of_passes (List.mem_filter.mp hp).2).symm
  -- What the checker refuses gives neither identifiers nor records.
  have hall {β : Type} (g : Enumeration → List β)
      (hnothing : ∀ p, passes p = false → g (settlement l kind tag s p) = []) :
      ((files.filter passes).map (settlement l kind tag s)).flatMap g =
        (files.map (settlement l kind tag s)).flatMap g := by
    rw [List.flatMap_map, List.flatMap_map]
    exact flatMap_filter_eq fun p _ => hnothing p
  refine ⟨?_, ?_, ?_, ?_, preserves_ofLoader (hsteady.keeps_check kind) _ hscanned⟩
  · rw [hread]
    exact hall identifiers fun p hp => by rw [settlement_of_refused hp]
  · rw [hread]
    exact hall records fun p hp => by rw [settlement_of_refused hp]
  · have hrefusals : scanned.1.failures = (files.filter fun p => !passes p).flatMap fun p =>
        (settlement l kind tag s p).failures := by
      rw [hjudged]
      refine List.map_eq_flatMap.trans (List.flatMap_congr fun p hp => ?_)
      have hrefused : passes p = false := by simpa using (List.mem_filter.mp hp).2
      rw [settlement_of_refused hrefused]
    rw [hread, hrefusals, exclusions, List.flatMap_append]
    exact congrArg (_ ++ ·) (List.flatMap_map ..)
  · rw [hjudged]

/-! ## What is found of one file -/

theorem filter_failures_settlements (hfiles : files.Nodup) (hp : p ∈ files) :
    (settlements l kind tag s files).failures.filter (fun f => f.path = p) =
      (settlement l kind tag s p).failures := by
  rw [failures_settlements]
  exact filter_flatMap_key
    (fun q _ f hf => ((settled_settlement l kind tag s q).failure hf).2) hfiles hp

theorem filter_records_settlements (hfiles : files.Nodup) (hp : p ∈ files) :
    (settlements l kind tag s files).records.filter (fun r => ⟨r.identifier.library⟩ = p) =
      (settlement l kind tag s p).records := by
  rw [records_settlements]
  refine filter_flatMap_key (fun q _ r hr => ?_) hfiles hp
  have hnamed := named_settlement l kind tag s q
  have hid : r.identifier ∈ (settlement l kind tag s q).identifiers := by
    rw [hnamed.ofRecords]
    exact List.mem_map_of_mem hr
  exact congrArg Path.mk (hnamed.library _ hid)

/-- The identifiers of all files are those of the records, and each is listed once. -/
theorem identifiers_settlements (l : TableLoader σ) (kind : PluginKind) (tag : String) (s : σ)
    (hfiles : files.Nodup) :
    (settlements l kind tag s files).identifiers =
        (settlements l kind tag s files).records.map Record.identifier ∧
      (settlements l kind tag s files).identifiers.Nodup := by
  have hnamed : List.Forall₂ (Named kind) (files.map fun p => ⟨p, tag⟩)
      (files.map (settlement l kind tag s)) := by
    rw [List.forall₂_map_left_iff, List.forall₂_map_right_iff, List.forall₂_same]
    exact fun p _ => named_settlement l kind tag s p
  refine ⟨identifiers_gathered hnamed, nodup_gathered hnamed ?_⟩
  rw [List.map_map]
  exact hfiles.map fun p q h => congrArg Path.mk h

end Enumeration

end AudioHost
