import AudioHost.Discovery.Selection
import AudioHost.Proofs.Discovery.Loading
import AudioHost.Proofs.Discovery.Restarts

/-!
Checkers that answer. Every checker that can be asked for gives one verdict on each path, in order,
if it can run.
-/

namespace AudioHost

namespace Probe

variable {σ : Type}

/-- A checker gives one verdict on each path, in order, if it can run. -/
def Answers (q : Probe σ) : Prop :=
  ∀ symbol files s vs, (q.check symbol files s).1 = .ok vs →
    List.Forall₂ (fun p v => v.path.same p = true) files vs

theorem answers_pure (tag : String) {verdict : String → Path → Verdict}
    (hpath : ∀ symbol p, (verdict symbol p).path = p) :
    (Probe.pure tag verdict : Probe σ).Answers := by
  rintro symbol files s vs ⟨rfl⟩
  rw [List.forall₂_map_right_iff, List.forall₂_same]
  intro p _
  rw [hpath]
  exact Path.same_refl p

theorem forall₂_checkAll (l : Loader σ) (symbol : String) (files : List Path) (s : σ) :
    List.Forall₂ (fun p v => v.path.same p = true) files (l.checkAll symbol files s).1 := by
  induction files generalizing s with
  | nil => exact .nil
  | cons p files ih =>
    have hsame : (l.verdict symbol s p).path.same p = true := by
      rw [l.path_verdict symbol s p]
      exact Path.same_refl p
    exact .cons hsame (ih _)

theorem answers_ofLoader (l : Loader σ) (tag : String) : (ofLoader l tag).Answers := by
  rintro symbol files s vs ⟨rfl⟩
  exact forall₂_checkAll l symbol files s

theorem answers_supervised (tag : String) (spawn : String → Spawner σ) (executable : Path)
    (timeoutSeconds : Nat) : (supervised tag spawn executable timeoutSeconds).Answers := by
  intro symbol files s vs hvs
  change ((Supervisor.probe (spawn symbol) executable timeoutSeconds files s).getD _).1 = .ok vs
    at hvs
  by_cases hfiles : files = []
  · subst hfiles
    cases hvs
    exact .nil
  · rcases hspawn : spawn symbol (files.map Verdict.requestLine) s with ⟨reason, s'⟩ | c
    · rw [Supervisor.probe_refused hfiles hspawn] at hvs
      cases hvs
    · obtain ⟨verdicts, left, more, hseen⟩ :=
        Supervisor.seen_restart (spawn symbol) timeoutSeconds files s []
      rw [Supervisor.probe_running hfiles hspawn, hseen.eq] at hvs
      cases left with
      | none => cases hvs
      | some s' =>
        cases hvs
        exact hseen.accounts.forall₂_same

end Probe

namespace Scanner

theorem mem_foldl_distinct {σ : Type} {probes kept : List (Probe σ)} {q : Probe σ}
    (hq : q ∈ probes.foldl (fun kept p =>
      if kept.any fun q => q.tag == p.tag then kept else kept ++ [p]) kept) :
    q ∈ kept ∨ q ∈ probes := by
  induction probes generalizing kept with
  | nil => exact Or.inl hq
  | cons p probes ih =>
    rcases ih hq with hkept | hlater
    · dsimp only at hkept
      split at hkept
      · exact Or.inl hkept
      · rcases List.mem_append.mp hkept with hkept | hp
        · exact Or.inl hkept
        · exact Or.inr (List.mem_cons.mpr (Or.inl (List.mem_singleton.mp hp)))
    · exact Or.inr (List.mem_cons_of_mem p hlater)

theorem mem_of_mem_distinct {σ : Type} {probes : List (Probe σ)} {q : Probe σ}
    (hq : q ∈ distinct probes) : q ∈ probes :=
  (mem_foldl_distinct hq).resolve_left List.not_mem_nil

/-- Every checker that settings ask for answers. -/
theorem answers_ofSettings (s : PluginSettings) (env : Environment) (bundled : Bool) :
    ∀ q ∈ (ofSettings s env bundled).probes, q.Answers := by
  intro q hq
  have hasked : q ∈ probesOf s env bundled := mem_of_mem_distinct hq
  unfold probesOf at hasked
  dsimp only at hasked
  split at hasked
  · rw [List.mem_singleton.mp hasked]
    exact Probe.answers_ofLoader _ _
  · split at hasked
    · obtain ⟨h, _, rfl⟩ := List.mem_map.mp hasked
      exact Probe.answers_supervised h.tag _ _ _
    · split at hasked
      · rw [List.mem_singleton.mp hasked]
        exact Probe.answers_supervised nativeTag _ _ _
      · cases hasked

end Scanner

end AudioHost
