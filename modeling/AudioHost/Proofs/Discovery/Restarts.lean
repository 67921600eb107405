import Mathlib.Data.List.Forall2
import AudioHost.Discovery.Supervisor

/-!
The laws of asking checker processes. Whatever the processes write and however their lines end, each
path gets one verdict in its turn, and what happened accounts for it: an answer for the first path
that waited, an end that it is to blame for, or a checker that could not be started again. But the
verdicts are told only if the last process ends too, once it has answered for all paths.
-/

namespace AudioHost

namespace Supervisor

/-! ## What happens -/

/-- A start of a checker. -/
inductive Session where
  | refused (requests : List String) (reason : String)
  /-- The process ends if it is left alone, or it does not. -/
  | running (requests : List String) (t : Transcript) (ends : Bool)

/-- The start of a checker that was not refused. -/
def Session.of {σ : Type} (requests : List String) (c : Started σ) : Session :=
  .running requests c.transcript c.ended.isSome

/-- A spawner that also keeps a record of its starts. Who looks at the record does not wait for a
process that never ends: then the record is all that is left. -/
def observed {σ : Type} (spawn : Spawner σ) : Spawner (Option σ × List Session)
  | _, (none, record) => .refused "" (none, record)
  | requests, (some s, record) =>
    match spawn requests s with
    | .refused reason s => .refused reason (some s, record ++ [.refused requests reason])
    | .running c =>
      let record := record ++ [.of requests c]
      .running ⟨c.transcript, (some c.killed, record), some (c.ended, record)⟩

theorem observed_refused {σ : Type} {spawn : Spawner σ} {requests : List String} {s s' : σ}
    {reason : String} (h : spawn requests s = .refused reason s') (record : List Session) :
    observed spawn requests (some s, record) =
      .refused reason (some s', record ++ [.refused requests reason]) := by
  simp [observed, h]

theorem observed_running {σ : Type} {spawn : Spawner σ} {requests : List String} {s : σ}
    {c : Started σ} (h : spawn requests s = .running c) (record : List Session) :
    observed spawn requests (some s, record) = .running ⟨c.transcript,
      (some c.killed, record ++ [.of requests c]), some (c.ended, record ++ [.of requests c])⟩ := by
  simp [observed, h]

/-- What a supervisor can come to see, in order. -/
inductive Happening where
  | started (requests : List String)
  | refused (requests : List String) (reason : String)
  | wrote (line : String)
  | ended (ending : Ending)

/-- What a checker does up to the end of its lines. -/
def talk (requests : List String) (t : Transcript) : List Happening :=
  .started requests :: t.lines.map .wrote

/-- What happens in a start. -/
def Session.happenings : Session → List Happening
  | .refused requests reason => [.refused requests reason]
  | .running requests t _ => talk requests t ++ [.ended t.ending]

/-- Everything that happens in some starts. -/
def happenings (record : List Session) : List Happening := record.flatMap Session.happenings

theorem happenings_cons (x : Session) (record : List Session) :
    happenings (x :: record) = x.happenings ++ happenings record := List.flatMap_cons

/-- No checker is started or fails to start. -/
def Quiet (hs : List Happening) : Prop :=
  ∀ h ∈ hs, (∃ line, h = .wrote line) ∨ ∃ ending, h = .ended ending

/-! ## What accounts for verdicts -/

/-- What happens accounts for verdicts on paths that wait. Always the first one that waits is
decided on. -/
inductive Accounts (timeoutSeconds : Nat) : List Happening → List Path → List Verdict → Prop
  /-- Nothing waits, and no checker is started any more. -/
  | settled {hs} : Quiet hs → Accounts timeoutSeconds hs [] []
  /-- A checker is asked about all paths that wait. -/
  | started {hs requests p ps vs} : requests = (p :: ps).map Verdict.requestLine →
      Accounts timeoutSeconds hs (p :: ps) vs →
      Accounts timeoutSeconds (.started requests :: hs) (p :: ps) vs
  /-- A line that is no answer for the first path that waits counts for nothing. -/
  | passed {hs line p ps vs} : (∀ v, Verdict.ofLine? line = some v → v.path.same p = false) →
      Accounts timeoutSeconds hs (p :: ps) vs →
      Accounts timeoutSeconds (.wrote line :: hs) (p :: ps) vs
  /-- A line answers for the first path that waits. -/
  | answered {hs line p ps v vs} : Verdict.ofLine? line = some v → v.path.same p = true →
      Accounts timeoutSeconds hs ps vs →
      Accounts timeoutSeconds (.wrote line :: hs) (p :: ps) (v :: vs)
  /-- A checker ends while a path waits. -/
  | blamed {hs ending p ps vs} : Accounts timeoutSeconds hs ps vs →
      Accounts timeoutSeconds (.ended ending :: hs) (p :: ps)
        (⟨p, .failedElsewhere, reasonOf timeoutSeconds ending⟩ :: vs)
  /-- A checker cannot be started while paths wait. -/
  | unchecked {requests reason p ps} : requests = (p :: ps).map Verdict.requestLine →
      Accounts timeoutSeconds [.refused requests reason] (p :: ps)
        ((p :: ps).map fun q => ⟨q, .unknown, s!"checker could not be restarted: {reason}"⟩)

/-- A checker stays after its answers: what was seen before the end of its lines accounts for all
verdicts, and it does not end. -/
def Stays (timeoutSeconds : Nat) (record : List Session) (paths : List Path)
    (verdicts : List Verdict) : Prop :=
  ∃ earlier requests t, record = earlier ++ [.running requests t false] ∧
    Accounts timeoutSeconds (happenings earlier ++ talk requests t) paths verdicts

namespace Accounts

variable {timeoutSeconds : Nat} {hs : List Happening} {ps : List Path} {vs ws : List Verdict}

/-- Every path gets one verdict, in order. -/
theorem forall₂_same (h : Accounts timeoutSeconds hs ps vs) :
    List.Forall₂ (fun p v => v.path.same p = true) ps vs := by
  induction h with
  | settled _ => exact .nil
  | started _ _ ih => exact ih
  | passed _ _ ih => exact ih
  | answered _ hsame _ ih => exact .cons hsame ih
  | blamed _ ih => exact .cons (Path.same_refl _) ih
  | unchecked _ =>
    rw [List.forall₂_map_right_iff, List.forall₂_same]
    intro q _
    exact Path.same_refl q

/-- What happens leaves no choice of verdicts. -/
theorem unique (h : Accounts timeoutSeconds hs ps vs) (h' : Accounts timeoutSeconds hs ps ws) :
    vs = ws := by
  -- At each happening both derivations take the same step: a line either answers for the first
  -- path or does not.
  induction h generalizing ws with
  | settled _ =>
    cases h' with
    | settled _ => rfl
  | started _ _ ih =>
    cases h' with
    | started _ h' => exact ih h'
  | passed hno _ ih =>
    cases h' with
    | passed _ h' => exact ih h'
    | answered hv hsame _ =>
      rw [hno _ hv] at hsame
      cases hsame
  | answered hv hsame _ ih =>
    cases h' with
    | passed hno _ =>
      rw [hno _ hv] at hsame
      cases hsame
    | answered hw _ h' =>
      rw [hv] at hw
      cases hw
      rw [ih h']
  | blamed _ ih =>
    cases h' with
    | blamed h' => rw [ih h']
  | unchecked _ =>
    cases h' with
    | unchecked _ => rfl

end Accounts

/-! ## One checker -/

theorem quiet_append_iff {hs more : List Happening} :
    Quiet (hs ++ more) ↔ Quiet hs ∧ Quiet more := List.forall_mem_append

theorem quiet_wrote (lines : List String) : Quiet (lines.map .wrote) := by
  intro x hx
  obtain ⟨line, _, rfl⟩ := List.mem_map.mp hx
  exact Or.inl ⟨line, rfl⟩

theorem quiet_ended (ending : Ending) : Quiet [.ended ending] := by
  intro x hx
  exact Or.inr ⟨ending, List.mem_singleton.mp hx⟩

theorem accounts_nil_iff {timeoutSeconds : Nat} {hs : List Happening} {vs : List Verdict} :
    Accounts timeoutSeconds hs [] vs ↔ Quiet hs ∧ vs = [] := by
  constructor
  · intro h
    cases h with
    | settled hquiet => exact ⟨hquiet, rfl⟩
  · rintro ⟨hquiet, rfl⟩
    exact .settled hquiet

/-- Where nothing waits, lines and an end change nothing. -/
theorem accounts_nil_append_iff {timeoutSeconds : Nat} {more hs : List Happening}
    {vs : List Verdict} (hmore : Quiet more) :
    Accounts timeoutSeconds (more ++ hs) [] vs ↔ Accounts timeoutSeconds hs [] vs := by
  simp only [accounts_nil_iff, quiet_append_iff, hmore, true_and]

/-- The lines of a checker account for the verdicts that they give, and for no others. -/
theorem accounts_wrote_iff {timeoutSeconds : Nat} {hs : List Happening} (pending : List Path)
    (lines : List String) (vs : List Verdict) :
    Accounts timeoutSeconds (lines.map .wrote ++ hs) pending vs ↔
      ∃ ws, vs = (answers pending lines).1 ++ ws ∧
        Accounts timeoutSeconds hs (answers pending lines).2 ws := by
  -- By the cases of reading lines: no path waits, no line is left, or the line is an answer, one
  -- for another path, or none.
  fun_induction answers pending lines generalizing vs with
  | case1 lines =>
    rw [accounts_nil_append_iff (quiet_wrote lines)]
    simp
  | case2 => simp
  | case3 front rest line lines v hv hsame found left hanswers ih =>
    rw [hanswers] at ih
    constructor
    · rintro (_ | _ | ⟨hno, _⟩ | ⟨hw, _, h⟩)
      · rw [hno v hv] at hsame
        cases hsame
      · rw [hv] at hw
        cases hw
        obtain ⟨ws, rfl, hws⟩ := (ih _).mp h
        exact ⟨ws, rfl, hws⟩
    · rintro ⟨ws, rfl, hws⟩
      exact .answered hv hsame ((ih _).mpr ⟨ws, rfl, hws⟩)
  | case4 front rest line lines v hv hother ih =>
    rw [← ih vs]
    constructor
    · rintro (_ | _ | ⟨_, h⟩ | ⟨hw, hsame, _⟩)
      · exact h
      · rw [hv] at hw
        cases hw
        exact absurd hsame hother
    · intro h
      refine .passed ?_ h
      intro w hw
      rw [hv] at hw
      cases hw
      simpa using hother
  | case5 front rest line lines hv ih =>
    rw [← ih vs]
    constructor
    · rintro (_ | _ | ⟨_, h⟩ | ⟨hw, _, _⟩)
      · exact h
      · rw [hv] at hw
        cases hw
    · intro h
      refine .passed ?_ h
      intro w hw
      rw [hv] at hw
      cases hw

/-- A checker that is started accounts for the verdicts that its lines give, and for no others. -/
theorem accounts_talk_iff {timeoutSeconds : Nat} {hs : List Happening} {vs : List Verdict}
    {pending : List Path} {requests : List String} (t : Transcript) (hpending : pending ≠ []) :
    Accounts timeoutSeconds (talk requests t ++ hs) pending vs ↔
      requests = pending.map Verdict.requestLine ∧ ∃ ws,
        vs = (answers pending t.lines).1 ++ ws ∧
          Accounts timeoutSeconds hs (answers pending t.lines).2 ws := by
  obtain ⟨p, ps, rfl⟩ := List.exists_cons_of_ne_nil hpending
  rw [talk, List.cons_append, ← accounts_wrote_iff]
  constructor
  · rintro (_ | ⟨hrequests, h⟩)
    exact ⟨hrequests, h⟩
  · rintro ⟨hrequests, h⟩
    exact .started hrequests h

/-- The end of a checker accounts for the verdict on the first path that waits. -/
theorem accounts_ended_iff {timeoutSeconds : Nat} {hs : List Happening} {vs : List Verdict}
    {ending : Ending} {p : Path} {ps : List Path} :
    Accounts timeoutSeconds (.ended ending :: hs) (p :: ps) vs ↔
      ∃ ws, vs = ⟨p, .failedElsewhere, reasonOf timeoutSeconds ending⟩ :: ws ∧
        Accounts timeoutSeconds hs ps ws := by
  constructor
  · rintro (_ | _ | _ | _ | h)
    exact ⟨_, rfl, h⟩
  · rintro ⟨ws, rfl, h⟩
    exact .blamed h

/-- A checker that answers for all paths is waited for. -/
theorem restart_answered {σ : Type} {spawn : Spawner σ} {pending : List Path} {s : σ}
    {c : Started σ} {vs : List Verdict} (hpending : pending ≠ [])
    (hspawn : spawn (pending.map Verdict.requestLine) s = .running c)
    (hanswers : answers pending c.transcript.lines = (vs, [])) (timeoutSeconds : Nat) :
    restart spawn timeoutSeconds pending s = c.ended.map fun s => (vs, s) := by
  obtain ⟨p, ps, rfl⟩ := List.exists_cons_of_ne_nil hpending
  rw [restart, hspawn]
  simp only [after, settle, hanswers, await_eq, restart]
  cases c.ended with
  | none => rfl
  | some s => simp

/-- Any other checker is killed, and the first path without a verdict is to blame for that. -/
theorem restart_blamed {σ : Type} {spawn : Spawner σ} {pending : List Path} {s : σ}
    {c : Started σ} {vs : List Verdict} {front : Path} {rest : List Path}
    (hpending : pending ≠ [])
    (hspawn : spawn (pending.map Verdict.requestLine) s = .running c)
    (hanswers : answers pending c.transcript.lines = (vs, front :: rest)) (timeoutSeconds : Nat) :
    restart spawn timeoutSeconds pending s =
      (restart spawn timeoutSeconds rest c.killed).map fun r =>
        (vs ++ ⟨front, .failedElsewhere, reasonOf timeoutSeconds c.transcript.ending⟩ :: r.1,
          r.2) := by
  obtain ⟨p, ps, rfl⟩ := List.exists_cons_of_ne_nil hpending
  rw [restart, hspawn]
  simp only [after, settle, hanswers]
  rcases hrest : restart spawn timeoutSeconds rest c.killed with _ | ⟨more, s'⟩ <;> simp [hrest]

/-! ## All checkers -/

/-- What comes of starting checkers again, for somebody who looks on and does not wait: the
verdicts, what is left if the asking ends, and the starts that were added to a record. -/
structure Seen {σ : Type} (spawn : Spawner σ) (timeoutSeconds : Nat) (pending : List Path) (s : σ)
    (record : List Session) (verdicts : List Verdict) (left : Option σ) (more : List Session) :
    Prop where
  observed_eq : restart (observed spawn) timeoutSeconds pending (some s, record) =
    some (verdicts, left, record ++ more)
  eq : restart spawn timeoutSeconds pending s = left.map fun s => (verdicts, s)
  length_le : more.length ≤ pending.length
  accounts : Accounts timeoutSeconds (happenings more) pending verdicts
  stays : left = none ↔ Stays timeoutSeconds more pending verdicts

section Seen

variable {σ : Type} {spawn : Spawner σ} {timeoutSeconds : Nat} {pending : List Path} {s : σ}
  {c : Started σ} {vs ws : List Verdict} {left : Option σ} {record more : List Session}

theorem seen_refused {reason : String} {s' : σ} (hpending : pending ≠ [])
    (hspawn : spawn (pending.map Verdict.requestLine) s = .refused reason s')
    (record : List Session) :
    Seen spawn timeoutSeconds pending s record (pending.map (unchecked reason)) (some s')
      [.refused (pending.map Verdict.requestLine) reason] := by
  obtain ⟨p, ps, rfl⟩ := List.exists_cons_of_ne_nil hpending
  refine ⟨?_, ?_, by simp, .unchecked rfl, ?_⟩
  · rw [restart, observed_refused hspawn]
  · rw [restart, hspawn]
    rfl
  · constructor
    · intro hnone
      cases hnone
    · rintro ⟨earlier, requests, t, heq, _⟩
      have hlast := congrArg List.getLast? heq
      rw [List.getLast?_concat, List.getLast?_singleton] at hlast
      cases hlast

theorem seen_answered (hpending : pending ≠ [])
    (hspawn : spawn (pending.map Verdict.requestLine) s = .running c)
    (hanswers : answers pending c.transcript.lines = (vs, [])) (record : List Session) :
    Seen spawn timeoutSeconds pending s record vs c.ended
      [.of (pending.map Verdict.requestLine) c] := by
  have htalk : ∀ hs, Quiet hs → Accounts timeoutSeconds
      (talk (pending.map Verdict.requestLine) c.transcript ++ hs) pending vs := by
    intro hs hquiet
    refine (accounts_talk_iff c.transcript hpending).mpr ⟨rfl, [], ?_⟩
    rw [hanswers, List.append_nil]
    exact ⟨rfl, accounts_nil_iff.mpr ⟨hquiet, rfl⟩⟩
  refine ⟨restart_answered hpending (observed_running hspawn record) hanswers timeoutSeconds,
    restart_answered hpending hspawn hanswers timeoutSeconds, List.length_pos_iff.mpr hpending,
    ?_, ?_⟩
  · rw [happenings_cons]
    have hall := htalk _ (quiet_ended c.transcript.ending)
    simpa [happenings, Session.happenings, Session.of] using hall
  · constructor
    · intro hended
      refine ⟨[], pending.map Verdict.requestLine, c.transcript, ?_, ?_⟩
      · rw [Session.of, hended]
        rfl
      · have hall := htalk [] (by simp [Quiet])
        simpa [happenings] using hall
    · rintro ⟨earlier, requests, t, heq, _⟩
      have hlast := congrArg List.getLast? heq
      rw [List.getLast?_concat, List.getLast?_singleton] at hlast
      simp only [Session.of, Option.some.injEq, Session.running.injEq, Option.isSome_eq_false_iff,
        Option.isNone_iff_eq_none] at hlast
      exact hlast.2.2

theorem seen_blamed {front : Path} {rest : List Path} (hpending : pending ≠ [])
    (hspawn : spawn (pending.map Verdict.requestLine) s = .running c)
    (hanswers : answers pending c.transcript.lines = (vs, front :: rest))
    (hlater : Seen spawn timeoutSeconds rest c.killed
      (record ++ [.of (pending.map Verdict.requestLine) c]) ws left more) :
    Seen spawn timeoutSeconds pending s record
      (vs ++ ⟨front, .failedElsewhere, reasonOf timeoutSeconds c.transcript.ending⟩ :: ws) left
      (.of (pending.map Verdict.requestLine) c :: more) := by
  -- What happens later accounts for the later verdicts just if all of it does for all of them.
  have haccounts : ∀ hs us, Accounts timeoutSeconds
      ((Session.of (pending.map Verdict.requestLine) c).happenings ++ hs) pending
        (vs ++ ⟨front, .failedElsewhere, reasonOf timeoutSeconds c.transcript.ending⟩ :: us) ↔
      Accounts timeoutSeconds hs rest us := by
    intro hs us
    rw [Session.of, Session.happenings, List.append_assoc,
      accounts_talk_iff c.transcript hpending, hanswers, List.singleton_append]
    simp [accounts_ended_iff]
  refine ⟨?_, ?_, ?_, ?_, ?_⟩
  · rw [restart_blamed hpending (observed_running hspawn record) hanswers, hlater.observed_eq]
    simp
  · rw [restart_blamed hpending hspawn hanswers, hlater.eq]
    cases left <;> rfl
  · have hle := length_left_answers pending c.transcript.lines
    have hmore := hlater.length_le
    rw [hanswers] at hle
    simp only [List.length_cons] at hle ⊢
    omega
  · rw [happenings_cons, haccounts]
    exact hlater.accounts
  · rw [hlater.stays]
    constructor
    · rintro ⟨earlier, requests, t, rfl, h⟩
      refine ⟨_ :: earlier, requests, t, rfl, ?_⟩
      rw [happenings_cons, List.append_assoc, haccounts]
      exact h
    · rintro ⟨_ | ⟨x, earlier⟩, requests, t, heq, h⟩
      · -- This checker left a path without a verdict, so what it wrote cannot account for all.
        simp only [List.nil_append, List.cons.injEq, Session.of, Session.running.injEq] at heq
        obtain ⟨⟨rfl, rfl, _⟩, rfl⟩ := heq
        rw [happenings, List.flatMap_nil, List.nil_append, ← List.append_nil (talk _ _),
          accounts_talk_iff c.transcript hpending, hanswers] at h
        obtain ⟨_, _, _, hnone⟩ := h
        cases hnone
      · rw [List.cons_append] at heq
        injection heq with hx hmore
        subst hx
        rw [happenings_cons, List.append_assoc, haccounts] at h
        exact ⟨earlier, requests, t, hmore, h⟩

/-- A checker is started, and comes first in the record. -/
theorem seen_running (hpending : pending ≠ [])
    (hspawn : spawn (pending.map Verdict.requestLine) s = .running c) (record : List Session)
    (hrest : ∀ rest s record, rest.length < pending.length →
      ∃ ws left more, Seen spawn timeoutSeconds rest s record ws left more) :
    ∃ verdicts left later, Seen spawn timeoutSeconds pending s record verdicts left
      (.of (pending.map Verdict.requestLine) c :: later) := by
  rcases hanswers : answers pending c.transcript.lines with ⟨vs, _ | ⟨front, rest⟩⟩
  · exact ⟨vs, c.ended, [], seen_answered hpending hspawn hanswers record⟩
  · have hle := length_left_answers pending c.transcript.lines
    rw [hanswers, List.length_cons] at hle
    obtain ⟨ws, left, more, hlater⟩ := hrest rest c.killed
      (record ++ [.of (pending.map Verdict.requestLine) c]) hle
    exact ⟨_, left, more, seen_blamed hpending hspawn hanswers hlater⟩

end Seen

theorem seen_restart {σ : Type} (spawn : Spawner σ) (timeoutSeconds : Nat)
    (pending : List Path) (s : σ) (record : List Session) :
    ∃ verdicts left more, Seen spawn timeoutSeconds pending s record verdicts left more := by
  -- By the number of paths that wait: each checker settles one of them at least.
  induction hn : pending.length using Nat.strongRecOn generalizing pending s record with
  | ind n ih =>
    by_cases hpending : pending = []
    · subst hpending
      exact ⟨[], some s, [], by simp [restart], by simp [restart], Nat.le_refl _,
        accounts_nil_iff.mpr ⟨by simp [happenings, Quiet], rfl⟩, by simp [Stays]⟩
    · rcases hspawn : spawn (pending.map Verdict.requestLine) s with ⟨reason, s'⟩ | c
      · exact ⟨_, some s', _, seen_refused hpending hspawn record⟩
      · obtain ⟨verdicts, left, later, hseen⟩ := seen_running hpending hspawn record
          fun rest s' record' hlt => ih rest.length (hn ▸ hlt) rest s' record' rfl
        exact ⟨verdicts, left, _, hseen⟩

/-! ## The first checker -/

theorem probe_refused {σ : Type} {spawn : Spawner σ} {paths : List Path} {s s' : σ}
    {reason : String} (hpaths : paths ≠ [])
    (hspawn : spawn (paths.map Verdict.requestLine) s = .refused reason s')
    (executable : Path) (timeoutSeconds : Nat) :
    probe spawn executable timeoutSeconds paths s =
      some (.error (.spawn executable reason), s') := by
  simp [probe, hpaths, hspawn]

/-- Once the first checker is started, it is as if checkers had been started before. -/
theorem probe_running {σ : Type} {spawn : Spawner σ} {paths : List Path} {s : σ} {c : Started σ}
    (hpaths : paths ≠ []) (hspawn : spawn (paths.map Verdict.requestLine) s = .running c)
    (executable : Path) (timeoutSeconds : Nat) :
    probe spawn executable timeoutSeconds paths s =
      (restart spawn timeoutSeconds paths s).map fun r => (.ok r.1, r.2) := by
  obtain ⟨p, ps, rfl⟩ := List.exists_cons_of_ne_nil hpaths
  simp only [probe, restart, hspawn, List.isEmpty_cons, Bool.false_eq_true, if_false]
  rcases after c (p :: ps) with _ | s'
  · rfl
  · simp only [Option.bind_eq_bind, Option.bind_some]
    rcases restart spawn timeoutSeconds (settle timeoutSeconds c.transcript (p :: ps)).2 s' with
      _ | ⟨more, s''⟩ <;> rfl

/-! ## The laws -/

/-- Whatever the checkers write and however they end, at most one of them is started for each path,
the failed start included. It is an error only if there are paths and the first checker cannot be
started. Otherwise each path gets one verdict, in order, and what happened accounts for all of them.
But whoever asks gets to see this just if no checker stays after its answers: one that has answered
for all paths that waited, and never ends, is waited for without a limit. -/
theorem asking_ends_unless_a_checker_stays_after_its_answers {σ : Type} (spawn : Spawner σ)
    (executable : Path) (timeoutSeconds : Nat) (paths : List Path) (s : σ) :
    ∃ answer left record,
      probe (observed spawn) executable timeoutSeconds paths (some s, []) =
        some (answer, left, record) ∧
      probe spawn executable timeoutSeconds paths s = left.map (fun s' => (answer, s')) ∧
      (probe spawn executable timeoutSeconds paths s = none ↔
        ∃ verdicts, answer = .ok verdicts ∧ Stays timeoutSeconds record paths verdicts) ∧
      record.length ≤ paths.length ∧
      match answer with
      | .error e => paths ≠ [] ∧ ∃ reason, e = .spawn executable reason ∧
          record = [.refused (paths.map Verdict.requestLine) reason]
      | .ok verdicts =>
          (∀ first ∈ record.head?, ∃ requests t ends, first = .running requests t ends) ∧
          List.Forall₂ (fun p v => v.path.same p = true) paths verdicts ∧
          Accounts timeoutSeconds (happenings record) paths verdicts := by
  by_cases hpaths : paths = []
  · subst hpaths
    refine ⟨.ok [], some s, [], rfl, rfl, ?_, Nat.le_refl _, by simp, .nil, .settled ?_⟩
    · simp [probe, Stays]
    · simp [happenings, Quiet]
  · rcases hspawn : spawn (paths.map Verdict.requestLine) s with ⟨reason, s'⟩ | c
    · have hprobe := probe_refused hpaths hspawn executable timeoutSeconds
      refine ⟨_, some s', _, probe_refused hpaths (observed_refused hspawn []) executable
        timeoutSeconds, hprobe, ?_, List.length_pos_iff.mpr hpaths, hpaths, reason, rfl, rfl⟩
      simp [hprobe]
    · obtain ⟨verdicts, left, later, hseen⟩ := seen_running hpaths hspawn []
        fun rest s' record _ => seen_restart spawn timeoutSeconds rest s' record
      have hprobe : probe spawn executable timeoutSeconds paths s =
          left.map fun s' => (.ok verdicts, s') := by
        rw [probe_running hpaths hspawn, hseen.eq]
        cases left <;> rfl
      refine ⟨.ok verdicts, left, _, ?_, hprobe, ?_, hseen.length_le, ?_,
        hseen.accounts.forall₂_same, hseen.accounts⟩
      · rw [probe_running hpaths (observed_running hspawn []), hseen.observed_eq]
        rfl
      · rw [hprobe, Option.map_eq_none_iff, hseen.stays]
        simp
      · rintro first ⟨rfl⟩
        exact ⟨_, _, _, rfl⟩

/-- One path is answered for, the next one is blamed on the end of its checker, and no checker can
be started for the last one. -/
theorem three_paths_are_told_of_in_three_ways :
    let a : Path := ⟨"/x/a.so"⟩
    let b : Path := ⟨"/x/b.so"⟩
    let c : Path := ⟨"/x/c.so"⟩
    let spawn : Spawner Bool := fun _ again =>
      if again then .refused "gone" again
      else .running ⟨⟨["loading", "SUCCESS|/x/b.so|", "SUCCESS|/x/a.so|"], .exited⟩, true, none⟩
    let verdicts : List Verdict :=
      [⟨a, .loadable, ""⟩, ⟨b, .failedElsewhere, "checker exited while loading this library"⟩,
        ⟨c, .unknown, "checker could not be restarted: gone"⟩]
    probe spawn ⟨"checker"⟩ 5 [a, b, c] false = some (.ok verdicts, true) ∧
      ∃ record, record.length ≤ 3 ∧ Accounts 5 (happenings record) [a, b, c] verdicts := by
  intro a b c spawn verdicts
  have hprobe : probe spawn ⟨"checker"⟩ 5 [a, b, c] false = some (.ok verdicts, true) := by
    have hanswers : answers [a, b, c] ["loading", "SUCCESS|/x/b.so|", "SUCCESS|/x/a.so|"] =
        ([⟨a, .loadable, ""⟩], [b, c]) := by decide +kernel
    rw [probe_running (by simp) rfl, restart_blamed (by simp) rfl hanswers, restart]
    rfl
  obtain ⟨answer, left, record, _, hsame, _, hlength, hanswer⟩ :=
    asking_ends_unless_a_checker_stays_after_its_answers spawn ⟨"checker"⟩ 5 [a, b, c] false
  rw [hprobe] at hsame
  obtain ⟨_, rfl, heq⟩ := Option.map_eq_some_iff.mp hsame.symm
  cases heq
  exact ⟨hprobe, record, hlength, hanswer.2.2⟩

/-- A checker answers for its only path and stays. -/
theorem nobody_comes_back_from_a_checker_that_stays :
    let a : Path := ⟨"/x/a.so"⟩
    let spawn : Spawner Unit := fun _ x => .running ⟨⟨["SUCCESS|/x/a.so|"], .stalled⟩, x, none⟩
    Verdict.ofLine? "SUCCESS|/x/a.so|" = some ⟨a, .loadable, ""⟩ ∧
      probe spawn ⟨"checker"⟩ 5 [a] () = none := by
  intro a spawn
  have hanswers : answers [a] ["SUCCESS|/x/a.so|"] = ([⟨a, .loadable, ""⟩], []) := by
    decide +kernel
  refine ⟨by decide +kernel, ?_⟩
  rw [probe_running (by simp) rfl, restart_answered (by simp) rfl hanswers]
  rfl

end Supervisor

end AudioHost
