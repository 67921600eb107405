import Mathlib.Data.List.Forall2
import AudioHost.Discovery.Checker
import AudioHost.Proofs.Discovery.Loading
import AudioHost.Proofs.Discovery.Restarts

/-!
Checking in processes of their own agrees with checking in this one. A library that takes its
checker down is the only one that fails by it: every other path gets the verdict that checking it
here gives, with the message on one line.
-/

namespace AudioHost

/-! ## The program that checks -/

namespace Checker

variable {σ : Type} (l : Loader σ) (symbol : String) (fate : Path → Option Ending)

theorem isLine_transcript (requests : List String) (s : σ) :
    ∀ line ∈ (transcript l symbol fate requests s).lines, Transcript.IsLine line := by
  induction requests generalizing s with
  | nil => simp [transcript]
  | cons request requests ih =>
    rw [transcript]
    split
    · exact ih s
    · dsimp only
      split
      · simp
      · exact List.forall_mem_cons.mpr ⟨Verdict.isLine_line _, ih _⟩

/-- Nothing is lost between the program and whoever asks it for verdicts on paths. -/
theorem exchange_eq (paths : List Path) (s : σ) :
    exchange l symbol fate (paths.map Verdict.requestLine) s =
      transcript l symbol fate (paths.map Verdict.requestLine) s := by
  have hrequests : ∀ line ∈ paths.map Verdict.requestLine, Transcript.IsLine line := by
    intro line hline
    obtain ⟨p, _, rfl⟩ := List.mem_map.mp hline
    exact Verdict.isLine_requestLine p
  rw [exchange, Transcript.ofBytes_bytesOf hrequests]
  exact Transcript.ofBytes_bytesOf (isLine_transcript l symbol fate _ s) _

/-- The program goes down with the first path if that is its fate. -/
theorem transcript_fatal {p : Path} (hp : p.text ≠ "") {ending : Ending}
    (hfate : fate p = some ending) (requests : List String) (s : σ) :
    transcript l symbol fate (Verdict.requestLine p :: requests) s = ⟨[], ending⟩ := by
  rw [transcript, if_neg (by simpa using Verdict.requestLine_ne_empty hp)]
  simp only [Verdict.ofRequest_requestLine, hfate]

/-- Otherwise it answers for the first path and goes on. -/
theorem transcript_answered {p : Path} (hp : p.text ≠ "") (hfate : fate p = none)
    (requests : List String) (s : σ) :
    transcript l symbol fate (Verdict.requestLine p :: requests) s =
      (transcript l symbol fate requests (l.check symbol p s).2).push
        (l.verdict symbol s p).line := by
  rw [transcript, if_neg (by simpa using Verdict.requestLine_ne_empty hp)]
  simp only [Verdict.ofRequest_requestLine, hfate, Loader.verdict]

/-- A spawner always starts the program. It checks with a loader in a usual state, and some paths
take it down, in whatever way. If it is asked about none of these, it ends with its requests. -/
def Starts {τ : Type} (spawn : Spawner τ) (usual : σ → Prop) (fatal : Path → Prop) : Prop :=
  ∀ requests x, ∃ fate s c, usual s ∧ (∀ p, (fate p).isSome = true ↔ fatal p) ∧
    spawn requests x = .running c ∧ c.transcript = exchange l symbol fate requests s ∧
    ((∀ p, fatal p → Verdict.requestLine p ∉ requests) → c.ended.isSome = true)

end Checker

/-! ## Verdicts from the program -/

namespace Supervisor

/-- A checker that answers for the first path goes on with the others. -/
theorem answers_push {line : String} {v : Verdict} {p : Path}
    (hline : Verdict.ofLine? line = some v) (hsame : v.path.same p = true) (t : Transcript)
    (ps : List Path) :
    answers (p :: ps) (t.push line).lines =
      (v :: (answers ps t.lines).1, (answers ps t.lines).2) := by
  simp only [Transcript.push, answers, hline, hsame, if_true]

/-- A path is to blame if it takes its checker down, and otherwise has the verdict that checking it
here gives, with the message on one line. -/
structure Contained (here : Path → Verdict) (fatal : Path → Prop) (timeoutSeconds : Nat) (p : Path)
    (v : Verdict) : Prop where
  path_eq : v.path = p
  blamed : fatal p → v.status = .failedElsewhere ∧
    ∃ ending, v.message = reasonOf timeoutSeconds ending
  answered : ¬ fatal p → v.status = (here p).status ∧
    v.message = String.ofList (Verdict.oneLine (here p).message.toList)

section Isolation

variable {σ τ : Type} {l : Loader σ} {symbol : String} {usual : σ → Prop} {fatal : Path → Prop}
  {s : σ} (timeoutSeconds : Nat)

/-- One checker answers for the paths in front of those that it leaves, each as it ought to be. The
first one that it leaves takes it down, and it leaves none just if no path does. -/
theorem contained_answers (hsteady : l.Steady symbol usual) (hs : usual s)
    {fate : Path → Option Ending} (hfate : ∀ p, (fate p).isSome = true ↔ fatal p)
    {pending : List Path} (hpending : ∀ p ∈ pending, p.text ≠ "") {t : σ} (ht : usual t) :
    let answered := answers pending
      (Checker.transcript l symbol fate (pending.map Verdict.requestLine) t).lines
    (∀ p ∈ answered.2, p ∈ pending) ∧ (∀ p ∈ answered.2.head?, fatal p) ∧
      (answered.2 = [] → ∀ p ∈ pending, ¬ fatal p) ∧
      ∀ more, List.Forall₂ (Contained (l.verdict symbol s) fatal timeoutSeconds) answered.2 more →
        List.Forall₂ (Contained (l.verdict symbol s) fatal timeoutSeconds) pending
          (answered.1 ++ more) := by
  -- The checker either goes down with the first path, which ends its lines, or answers for it and
  -- goes on with the others from a usual state.
  induction pending generalizing t with
  | nil =>
    rw [List.map_nil, Checker.transcript, answers]
    exact ⟨fun _ hp => hp, by simp, by simp, fun _ hmore => hmore⟩
  | cons p ps ih =>
    obtain ⟨hp, hps⟩ := List.forall_mem_cons.mp hpending
    rcases hend : fate p with _ | ending
    · have hnot : ¬ fatal p := by
        intro hfatal
        have hsome := (hfate p).mpr hfatal
        rw [hend] at hsome
        cases hsome
      have hpath : (l.verdict symbol t p).onOneLine.path = p := l.path_verdict symbol t p
      rw [List.map_cons, Checker.transcript_answered l symbol fate hp hend,
        answers_push (l.ofLine?_verdict symbol t hp) (by rw [hpath, Path.same_refl])]
      obtain ⟨hleft, hfirst, hnone, hall⟩ := ih hps (hsteady.keeps p t ht)
      refine ⟨fun q hq => List.mem_cons_of_mem p (hleft q hq), hfirst,
        fun hdone => List.forall_mem_cons.mpr ⟨hnot, hnone hdone⟩, fun more hmore =>
        .cons ⟨hpath, fun hfatal => absurd hfatal hnot, fun _ => ?_⟩ (hall more hmore)⟩
      rw [hsteady.same p t s ht hs]
      exact ⟨rfl, rfl⟩
    · rw [List.map_cons, Checker.transcript_fatal l symbol fate hp hend]
      rw [answers]
      · refine ⟨fun q hq => hq, ?_, by simp, fun more hmore => hmore⟩
        rintro q ⟨rfl⟩
        exact (hfate p).mp (by rw [hend]; rfl)
      · exact List.cons_ne_nil p ps

/-- Starting checkers settles every path as it ought to be, and comes to an end. -/
theorem contained_restart (hsteady : l.Steady symbol usual) (hs : usual s) {spawn : Spawner τ}
    (hstarts : Checker.Starts l symbol spawn usual fatal) {pending : List Path}
    (hpending : ∀ p ∈ pending, p.text ≠ "") (x : τ) :
    ∃ verdicts x', restart spawn timeoutSeconds pending x = some (verdicts, x') ∧
      List.Forall₂ (Contained (l.verdict symbol s) fatal timeoutSeconds) pending verdicts := by
  -- By the number of paths that wait: the first one that a checker leaves is settled by its end.
  induction hn : pending.length using Nat.strongRecOn generalizing pending x with
  | ind n ih =>
    by_cases hempty : pending = []
    · subst hempty
      exact ⟨[], x, by rw [restart], .nil⟩
    · obtain ⟨fate, t, c, ht, hfate, hspawn, htranscript, hends⟩ :=
        hstarts (pending.map Verdict.requestLine) x
      rw [Checker.exchange_eq] at htranscript
      obtain ⟨hleft, hfirst, hnone, hall⟩ :=
        contained_answers timeoutSeconds hsteady hs hfate hpending ht
      rw [← htranscript] at hleft hfirst hnone hall
      rcases hanswers : answers pending c.transcript.lines with ⟨vs, _ | ⟨front, rest⟩⟩
      · rw [hanswers] at hnone hall
        have hsome : c.ended.isSome = true := by
          refine hends fun p hfatal hp => ?_
          obtain ⟨q, hq, hline⟩ := List.mem_map.mp hp
          have hsame := congrArg Verdict.ofRequest hline
          rw [Verdict.ofRequest_requestLine, Verdict.ofRequest_requestLine] at hsame
          exact hnone rfl q hq (hsame ▸ hfatal)
        obtain ⟨x', hx'⟩ := Option.isSome_iff_exists.mp hsome
        refine ⟨vs, x', ?_, by simpa using hall [] .nil⟩
        rw [restart_answered hempty hspawn hanswers, hx']
        rfl
      · rw [hanswers] at hleft hfirst hall
        have hle := length_left_answers pending c.transcript.lines
        rw [hanswers, List.length_cons] at hle
        obtain ⟨more, x', hmore, hcontained⟩ := ih rest.length (by omega)
          (fun p hp => hpending p (hleft p (List.mem_cons_of_mem front hp))) c.killed rfl
        have hfront : Contained (l.verdict symbol s) fatal timeoutSeconds front
            ⟨front, .failedElsewhere, reasonOf timeoutSeconds c.transcript.ending⟩ :=
          ⟨rfl, fun _ => ⟨rfl, c.transcript.ending, rfl⟩,
            fun hnot => absurd (hfirst front rfl) hnot⟩
        refine ⟨_, x', ?_, hall _ (.cons hfront hcontained)⟩
        rw [restart_blamed hempty hspawn hanswers, hmore]
        rfl

end Isolation

/-! ## The law -/

/-- Let a loader give verdicts that depend on the paths alone, let the program that checks be
started whenever it is asked for, and let just some paths take it down. Then asking it about paths
gives each one its verdict, in order. A path that takes it down is to blame for that, and no other
is: any other gets the status that checking it here gives, and the message of that with each line
end replaced by a space. -/
theorem isolated_checks_agree_with_checks_here {σ τ : Type} (l : Loader σ) (symbol : String)
    (usual : σ → Prop) (hsteady : l.Steady symbol usual) (fatal : Path → Prop) (spawn : Spawner τ)
    (hstarts : Checker.Starts l symbol spawn usual fatal) (executable : Path)
    (timeoutSeconds : Nat) (paths : List Path) (hpaths : ∀ p ∈ paths, p.text ≠ "") (x : τ) (s : σ)
    (hs : usual s) (tag : String) :
    ∃ verdicts x',
      probe spawn executable timeoutSeconds paths x = some (.ok verdicts, x') ∧
      List.Forall₂ (Contained (l.verdict symbol s) fatal timeoutSeconds) paths verdicts ∧
      ((Probe.ofLoader l tag).check symbol paths s).1 = .ok (paths.map (l.verdict symbol s)) := by
  have hhere : ((Probe.ofLoader l tag).check symbol paths s).1 =
      .ok (paths.map (l.verdict symbol s)) := congrArg Except.ok (hsteady.checkAll_eq hs paths)
  by_cases hempty : paths = []
  · subst hempty
    exact ⟨[], x, rfl, .nil, rfl⟩
  · obtain ⟨_, _, c, _, _, hspawn, _⟩ := hstarts (paths.map Verdict.requestLine) x
    obtain ⟨verdicts, x', hrestart, hcontained⟩ :=
      contained_restart timeoutSeconds hsteady hs hstarts hpaths x
    refine ⟨verdicts, x', ?_, hcontained, hhere⟩
    rw [probe_running hempty hspawn, hrestart]
    rfl

/-- A path with every odd character fails with a message of two lines, a library takes the checker
down by stalling it, and the library after it is loadable. -/
theorem a_neighbour_of_a_fatal_library_is_loadable :
    let odd : Path := ⟨"/p/a|b%\r\n.so"⟩
    let deadly : Path := ⟨"/p/crash.so"⟩
    let fine : Path := ⟨"/p/amp.so"⟩
    let m : Machine :=
      .start .empty (.start [(odd, .none "no\r\nlibrary|%")] (.specimen .amplifiers))
    let fate : Path → Option Ending := fun p => if p = deadly then some .stalled else none
    let spawn : Spawner Unit := fun requests x =>
      .running ⟨Checker.exchange Machine.loader "ladspa_descriptor" fate requests m, x,
        if Verdict.requestLine deadly ∈ requests then none else some x⟩
    Checker.Starts Machine.loader "ladspa_descriptor" spawn
        (Machine.Finds .empty [(odd, .none "no\r\nlibrary|%")] (.specimen .amplifiers))
        (· = deadly) ∧
      ∃ verdicts, probe spawn ⟨"checker"⟩ 5 [odd, deadly, fine] () = some (.ok verdicts, ()) ∧
        verdicts.map (fun v => (v.path, v.status)) =
          [(odd, .failedToLoadLibrary), (deadly, .failedElsewhere), (fine, .loadable)] ∧
        (verdicts.map Verdict.message).head? = some "no  library|%" := by
  intro odd deadly fine m fate spawn
  have hm : Machine.Finds .empty [(odd, .none "no\r\nlibrary|%")] (.specimen .amplifiers) m :=
    Machine.finds_start ..
  have hstarts : Checker.Starts Machine.loader "ladspa_descriptor" spawn
      (Machine.Finds .empty [(odd, .none "no\r\nlibrary|%")] (.specimen .amplifiers))
      (· = deadly) :=
    fun requests x => ⟨fate, m, _, hm, fun p => by simp only [fate]; split <;> simp [*], rfl, rfl,
      fun hnone => by rw [if_neg (hnone deadly rfl)]; rfl⟩
  obtain ⟨verdicts, x, hprobe, hverdicts, _⟩ :=
    isolated_checks_agree_with_checks_here Machine.loader "ladspa_descriptor" _
      (Machine.steady_loader "ladspa_descriptor" .empty _ _) (· = deadly) spawn hstarts
      ⟨"checker"⟩ 5 [odd, deadly, fine] (by decide) () m hm "native"
  rcases hverdicts with _ | ⟨hodd, _ | ⟨hdeadly, _ | ⟨hfine, _ | _⟩⟩⟩
  have hoddHere : Machine.loader.verdict "ladspa_descriptor" m odd =
      ⟨odd, .failedToLoadLibrary, "no\r\nlibrary|%"⟩ := by
    simp only [m, odd]
    decide +kernel
  have hfineHere : Machine.loader.verdict "ladspa_descriptor" m fine = .success fine := by
    simp only [m, odd, fine]
    decide +kernel
  obtain ⟨hstatus, hmessage⟩ := hodd.answered (by decide)
  obtain ⟨hblamed, _⟩ := hdeadly.blamed rfl
  obtain ⟨hloadable, _⟩ := hfine.answered (by decide)
  rw [hoddHere] at hstatus hmessage
  rw [hfineHere] at hloadable
  refine ⟨hstarts, _, hprobe, ?_, ?_⟩
  · simp [hodd.path_eq, hdeadly.path_eq, hfine.path_eq, hstatus, hblamed, hloadable,
      Verdict.success]
  · rw [List.map_cons, List.head?_cons, hmessage]
    exact congrArg some (by decide +kernel)

end Supervisor

end AudioHost
