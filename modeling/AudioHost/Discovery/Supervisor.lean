import AudioHost.Discovery.Transcript
import AudioHost.Discovery.Verdict

/-!
Asking checker processes for verdicts.

A checker is given all paths that wait for a verdict. Its answers count in order: each must be on
the first path that has none. When the checker exits, stalls or writes what is no text, that path
is to blame, the checker is killed, and a new one is started for the others. A checker that has
answered for all paths is not killed. It is waited for, and nothing limits how long.
-/

namespace AudioHost

/-- Why no verdicts came at all. -/
inductive ProbeError where
  /-- The program could not be started. -/
  | spawn (executable : Path) (reason : String)
  | aborted (reason : String)
deriving DecidableEq, Repr

/-- What an error says. -/
def ProbeError.message : ProbeError → String
  | .spawn executable reason => s!"failed to start checker '{executable.text}': {reason}"
  | .aborted reason => s!"loadability check aborted: {reason}"

/-- A checker that was started. -/
structure Started (σ : Type) where
  transcript : Transcript
  /-- What there is if it is killed where its lines end. -/
  killed : σ
  /-- What there is if it is left alone until it ends. It may never do so. -/
  ended : Option σ

/-- What comes of starting a checker. -/
inductive Start (σ : Type) where
  | refused (reason : String) (s : σ)
  | running (c : Started σ)

/-- Starts a checker with some requests. -/
abbrev Spawner (σ : Type) := List String → σ → Start σ

namespace Supervisor

/-- What the first path without a verdict is told when the answers end. -/
def reasonOf (timeoutSeconds : Nat) : Ending → String
  | .exited => "checker exited while loading this library"
  | .stalled => s!"checker timed out after {timeoutSeconds}s while loading this library"
  | .unreadable reason => s!"failed to read checker output: {reason}"

/-- The verdicts that lines give, and the paths that are left. A line that is no answer for the
first path without a verdict is passed over. -/
def answers : List Path → List String → List Verdict × List Path
  | [], _ => ([], [])
  | pending, [] => ([], pending)
  | front :: rest, line :: lines =>
    match Verdict.ofLine? line with
    | some v =>
      if v.path.same front then
        let (vs, left) := answers rest lines
        (v :: vs, left)
      else answers (front :: rest) lines
    | none => answers (front :: rest) lines

/-- The verdicts of one checker, and the paths that are left for the next one. -/
def settle (timeoutSeconds : Nat) (t : Transcript) (pending : List Path) :
    List Verdict × List Path :=
  match answers pending t.lines with
  | (vs, []) => (vs, [])
  | (vs, front :: rest) =>
    (vs ++ [⟨front, .failedElsewhere, reasonOf timeoutSeconds t.ending⟩], rest)

/-- Waiting for what never comes. A program that waits so hangs, and the value is none. -/
def forever {σ : Type} : Started σ → Option σ := forever
partial_fixpoint

theorem forever_eq {σ : Type} (c : Started σ) : forever c = none := by
  have hnever : ∀ (c : Started σ) s, forever c = some s → False :=
    forever.partial_correctness (fun _ _ => False) fun _ hwait => hwait
  exact Option.eq_none_iff_forall_ne_some.mpr fun s hs => hnever c s hs

/-- What there is once a checker has ended. Where it never does, the waiting does not end. -/
def await {σ : Type} (c : Started σ) : Option σ :=
  match c.ended with
  | some s => some s
  | none => forever c

theorem await_eq {σ : Type} (c : Started σ) : await c = c.ended := by
  unfold await
  cases c.ended with
  | none => exact forever_eq c
  | some s => rfl

/-- What there is after a checker. One that answered for all paths is waited for, any other is
killed. -/
def after {σ : Type} (c : Started σ) (pending : List Path) : Option σ :=
  match (answers pending c.transcript.lines).2 with
  | [] => await c
  | _ :: _ => some c.killed

/-- The verdict on a path when no further checker could be started. -/
def unchecked (reason : String) (p : Path) : Verdict :=
  ⟨p, .unknown, s!"checker could not be restarted: {reason}"⟩

theorem length_left_answers (pending : List Path) (lines : List String) :
    (answers pending lines).2.length ≤ pending.length := by
  fun_induction answers pending lines with
  | case1 => simp
  | case2 => simp
  | case3 front rest line lines v hv hsame vs left hanswers ih =>
    rw [hanswers] at ih
    simp only [List.length_cons] at ih ⊢
    omega
  | case4 front rest line lines v hv hsame ih => exact ih
  | case5 front rest line lines hv ih => exact ih

/-- Every checker settles at least one path. -/
theorem length_left_settle (timeoutSeconds : Nat) (t : Transcript) {pending : List Path}
    (h : pending ≠ []) : (settle timeoutSeconds t pending).2.length < pending.length := by
  have hle := length_left_answers pending t.lines
  have hpos := List.length_pos_iff.mpr h
  unfold settle
  split
  · exact hpos
  · rename_i hanswers
    rw [hanswers] at hle
    exact hle

/-- Checks paths after a first checker. Nothing comes of it if a checker is waited for that never
ends. -/
def restart {σ : Type} (spawn : Spawner σ) (timeoutSeconds : Nat) :
    List Path → σ → Option (List Verdict × σ)
  | [], s => some ([], s)
  | front :: rest, s =>
    match spawn ((front :: rest).map Verdict.requestLine) s with
    | .refused reason s => some ((front :: rest).map (unchecked reason), s)
    | .running c => do
      let settled := settle timeoutSeconds c.transcript (front :: rest)
      let s ← after c (front :: rest)
      let (more, s) ← restart spawn timeoutSeconds settled.2 s
      return (settled.1 ++ more, s)
termination_by pending => pending.length
decreasing_by exact length_left_settle timeoutSeconds c.transcript (List.cons_ne_nil front rest)

/-- Checks paths. It is an error if the first checker cannot be started. -/
def probe {σ : Type} (spawn : Spawner σ) (executable : Path) (timeoutSeconds : Nat)
    (paths : List Path) (s : σ) : Option (Except ProbeError (List Verdict) × σ) :=
  if paths.isEmpty then some (.ok [], s)
  else match spawn (paths.map Verdict.requestLine) s with
    | .refused reason s => some (.error (.spawn executable reason), s)
    | .running c => do
      let settled := settle timeoutSeconds c.transcript paths
      let s ← after c paths
      let (more, s) ← restart spawn timeoutSeconds settled.2 s
      return (.ok (settled.1 ++ more), s)

end Supervisor

end AudioHost
