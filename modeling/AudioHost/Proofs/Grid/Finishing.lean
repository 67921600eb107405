import AudioHost.Proofs.Grid.Calls

/-!
What the report of the end does to a grid in bulk. A grid is made with nothing left to fill, so the
report ends the bulk just if less was reported before; otherwise it is a report of what is known
already and does nothing.
-/

namespace AudioHost.Grid

/-! ## Ending the bulk -/

/-- The report of the end takes effect: all earlier writes are announced by then, and each later one
is announced at once by one notice of its own, whatever else is called in between. -/
structure FillEnds (start : Grid) (calls : List Call) (completion : Nat) (update : Bool) :
    Prop where
  announced : ∀ before index values rest, calls = before ++ .setColumn index values :: rest →
    Announced index (start.after before).resolution
      ((start.after before).told
        (.setColumn index values :: rest ++ [.setCompletion completion update]))
  atOnce : (start.after (calls ++ [.setCompletion completion update])).notifyOnAdd = true
  later : ∀ more index values, ∃ n,
    let g := start.after (calls ++ .setCompletion completion update :: more)
    (g.call (.setColumn index values)).2 = [n] ∧ Announced index g.resolution [n]

/-- The calls report less than the end at some time. -/
def Lowers (calls : List Call) : Prop :=
  ∃ completion update, completion < 100 ∧ .setCompletion completion update ∈ calls

theorem notifyOnAdd_call {g : Grid} (h : g.notifyOnAdd = true) (c : Call) :
    (g.call c).1.notifyOnAdd = true := by
  rcases c.kinds with ⟨index, values, rfl⟩ | ⟨completion, update, rfl⟩ | hsetting
  · exact (setColumn_notifyOnAdd g index values).trans h
  · rcases setCompletion_cases g completion update with
      ⟨_, hcall⟩ | ⟨_, _, hcall⟩ | ⟨_, _, _, _, hmode, _⟩ | ⟨_, _, _, hcall⟩
    · rwa [call, hcall]
    · rw [call, hcall]
    · exact absurd (h.symm.trans hmode) Bool.noConfusion
    · rwa [call, hcall]
  · exact (setting_keeps g hsetting).1.trans h

/-! ## What is announced when the bulk ends -/

/-- The bulk does not end without a notice that covers everything. -/
theorem bulk_or_announced (calls : List Call) {g : Grid} (h : g.notifyOnAdd = false)
    (index resolution : Nat) :
    Announced index resolution (g.told calls) ∨ (g.after calls).notifyOnAdd = false := by
  induction calls generalizing g with
  | nil => exact Or.inr h
  | cons c calls ih =>
    have hstep : Announced index resolution (g.call c).2 ∨ (g.call c).1.notifyOnAdd = false := by
      rcases c.kinds with ⟨i, values, rfl⟩ | ⟨completion, update, rfl⟩ | hsetting
      · exact Or.inr ((setColumn_notifyOnAdd g i values).trans h)
      · rcases setCompletion_cases g completion update with
          ⟨_, hcall⟩ | ⟨_, _, hcall⟩ | ⟨_, _, _, _, _, _, _, hcall⟩ | ⟨_, _, _, hcall⟩
        · exact Or.inr (by rwa [call, hcall])
        · exact Or.inl (announced_changed (by simp [call, hcall]))
        · exact Or.inr (by rwa [call, hcall])
        · exact Or.inr (by rwa [call, hcall])
      · exact Or.inr ((setting_keeps g hsetting).1.trans h)
    rw [told, announced_append, or_assoc]
    exact hstep.imp_right fun hbulk => ih hbulk

theorem write_announced_or_bulk (g : Grid) (index : Nat) (values : List Single)
    (rest : List Call) :
    Announced index g.resolution (g.told (.setColumn index values :: rest)) ∨
      (g.after (.setColumn index values :: rest)).notifyOnAdd = false := by
  rw [told, announced_append]
  rcases hmode : g.notifyOnAdd with _ | _
  · rw [or_assoc]
    exact Or.inr (bulk_or_announced rest ((setColumn_notifyOnAdd g index values).trans hmode) ..)
  · obtain ⟨n, htold, hn⟩ := setColumn_announced_at_once g index values hmode
    exact Or.inl (Or.inl (by rwa [call, htold]))

/-! ## When the bulk can end -/

/-- A report of the end will be heard, or it is not needed. -/
def Endable (g : Grid) : Prop := g.notifyOnAdd = true ∨ g.completion < 100

theorem endable_call {g : Grid} (h : g.Endable) (c : Call) : (g.call c).1.Endable := by
  rcases c.kinds with ⟨index, values, rfl⟩ | ⟨completion, update, rfl⟩ | hsetting
  · simpa [Endable, call] using h
  · rcases setCompletion_cases g completion update with
      ⟨_, hcall⟩ | ⟨_, _, hcall⟩ | ⟨_, _, _, hlt, _, _, _, hcall⟩ | ⟨_, hlt, _, hcall⟩
    · rwa [call, hcall]
    · exact Or.inl (by rw [call, hcall])
    · exact Or.inr (by rwa [call, hcall])
    · exact Or.inr (by rwa [call, hcall])
  · obtain ⟨hmode, _, hcompletion⟩ := setting_keeps g hsetting
    simpa [Endable, hmode, hcompletion] using h

theorem endable_lowered (g : Grid) {completion : Nat} (h : completion < 100) (update : Bool) :
    (g.setCompletion completion update).1.Endable := by
  rcases setCompletion_cases g completion update with
    ⟨hknown, hcall⟩ | ⟨_, hend, _⟩ | ⟨_, _, _, _, _, _, _, hcall⟩ | ⟨_, _, _, hcall⟩
  · rw [Nat.min_eq_left (by omega)] at hknown
    exact Or.inr (by rwa [hcall, hknown])
  · omega
  · exact Or.inr (by rwa [hcall])
  · exact Or.inr (by rwa [hcall])

theorem endable_after {calls : List Call} (h : Lowers calls) (g : Grid) :
    (g.after calls).Endable := by
  obtain ⟨completion, update, hlt, hmem⟩ := h
  obtain ⟨before, rest, rfl⟩ := List.append_of_mem hmem
  rw [after_append, after_cons]
  exact after_induction Endable (fun t c _ ht => endable_call ht c) (endable_lowered _ hlt update)

/-- The grid is in bulk, and there is nothing left to fill. -/
def Stuck (g : Grid) : Prop := g.notifyOnAdd = false ∧ g.completion = 100

theorem setCompletion_stuck {g : Grid} (h : g.Stuck) {completion : Nat} (hend : 100 ≤ completion)
    (update : Bool) : g.setCompletion completion update = (g, []) := by
  rw [setCompletion, Nat.min_eq_right hend, if_pos h.2]

theorem stuck_after {calls : List Call} (h : ¬ Lowers calls) {g : Grid} (hg : g.Stuck) :
    (g.after calls).Stuck := by
  refine after_induction Stuck (fun t c hc ht => ?_) hg
  rcases c.kinds with ⟨index, values, rfl⟩ | ⟨completion, update, rfl⟩ | hsetting
  · simpa [Stuck, call] using ht
  · have hend : 100 ≤ completion := Nat.not_lt.mp fun hlt => h ⟨completion, update, hlt, hc⟩
    rwa [call, setCompletion_stuck ht hend]
  · obtain ⟨hmode, _, hcompletion⟩ := setting_keeps t hsetting
    simpa [Stuck, hmode, hcompletion] using ht

/-! ## The laws -/

theorem fillEnds_of_endable {start : Grid} {calls : List Call} (h : (start.after calls).Endable)
    {completion : Nat} (hend : 100 ≤ completion) (update : Bool) :
    FillEnds start calls completion update := by
  -- The report is either news, and tells of everything, or there is no bulk any more.
  have hreport : ((start.after calls).setCompletion completion update).1.notifyOnAdd = true ∧
      ((start.after calls).notifyOnAdd = true ∨
        .changed ∈ ((start.after calls).setCompletion completion update).2) := by
    rcases setCompletion_cases (start.after calls) completion update with
      ⟨hknown, hcall⟩ | ⟨_, _, hcall⟩ | ⟨_, _, _, hlt, _⟩ | ⟨_, hlt, _⟩
    · rw [Nat.min_eq_right hend] at hknown
      have hmode : (start.after calls).notifyOnAdd = true := h.resolve_right (by omega)
      exact ⟨by rwa [hcall], Or.inl hmode⟩
    · exact ⟨by rw [hcall], Or.inr (by simp [hcall])⟩
    · omega
    · omega
  obtain ⟨hmode, hheard⟩ := hreport
  constructor
  case announced =>
    rintro before index values rest rfl
    rw [told_append, announced_append]
    rcases write_announced_or_bulk (start.after before) index values rest with htold | hbulk
    · exact Or.inl htold
    · rw [← after_append] at hbulk ⊢
      refine Or.inr (announced_changed ?_)
      rw [told_singleton]
      exact hheard.resolve_left (by rw [hbulk]; exact Bool.false_ne_true)
  case atOnce =>
    rw [after_append]
    exact hmode
  case later =>
    intro more index values
    refine setColumn_announced_at_once _ index values ?_
    rw [after_append, after_cons]
    exact after_induction (·.notifyOnAdd = true) (fun t c _ ht => notifyOnAdd_call ht c) hmode

/-- The report of the end takes effect just if writes were announced at once from the beginning or
the calls before it report less. Otherwise it does nothing: the grid stays in bulk. -/
theorem a_fill_ends_just_if_it_was_lowered (sampleRate : Double) (resolution bins : Nat)
    (notifyOnAdd : Bool) (calls : List Call) (completion : Nat) (update : Bool)
    (h : 100 ≤ completion) :
    let start := empty sampleRate resolution bins notifyOnAdd
    let g := start.after calls
    (FillEnds start calls completion update ↔ notifyOnAdd = true ∨ Lowers calls) ∧
      (notifyOnAdd = false → ¬ Lowers calls →
        g.setCompletion completion update = (g, []) ∧ g.notifyOnAdd = false) := by
  intro start g
  have hstuck : notifyOnAdd = false → ¬ Lowers calls → g.Stuck := fun hmode hlowers =>
    stuck_after hlowers ⟨hmode, rfl⟩
  refine ⟨⟨fun hends => ?_, fun hcause => fillEnds_of_endable ?_ h update⟩, fun hmode hlowers =>
    ⟨setCompletion_stuck (hstuck hmode hlowers) h update, (hstuck hmode hlowers).1⟩⟩
  · by_cases hcause : notifyOnAdd = true ∨ Lowers calls
    · exact hcause
    rw [not_or, Bool.not_eq_true] at hcause
    have hg := hstuck hcause.1 hcause.2
    have hmode := hends.atOnce
    rw [after_append, after_cons, call, setCompletion_stuck hg h update] at hmode
    exact absurd (hg.1.symm.trans hmode) Bool.false_ne_true
  · rcases hcause with hmode | hlowers
    · exact after_induction Endable (fun t c _ ht => endable_call ht c) (Or.inl hmode)
    · exact endable_after hlowers start

/-- Two columns, a report of 40 and then the end. -/
theorem a_lowered_fill_ends :
    let one : Single := ⟨0x3f800000⟩
    let start := empty ⟨0x40e5888000000000⟩ 10 1 false
    let calls : List Call := [.setColumn 0 [one], .setColumn 1 [one], .setCompletion 40 false]
    100 ≤ 100 ∧ Lowers calls ∧ FillEnds start calls 100 false := by
  intro one start calls
  have hlowers : Lowers calls := ⟨40, false, by decide, by simp [calls]⟩
  obtain ⟨hends, _⟩ := a_fill_ends_just_if_it_was_lowered ⟨0x40e5888000000000⟩ 10 1 false calls
    100 false (Nat.le_refl _)
  exact ⟨Nat.le_refl _, hlowers, hends.mpr (Or.inr hlowers)⟩

/-- Two columns and then the end, without a report of less: the second column is never announced,
and neither is one after the end. -/
theorem the_end_of_a_fill_goes_unheard :
    let one : Single := ⟨0x3f800000⟩
    let start := empty ⟨0x40e5888000000000⟩ 10 1 false
    let calls : List Call := [.setColumn 0 [one], .setColumn 1 [one]]
    let done := start.after (calls ++ [.setCompletion 100 false])
    ¬ FillEnds start calls 100 false ∧
      ¬ Announced 1 10 ((start.after [.setColumn 0 [one]]).told
        [.setColumn 1 [one], .setCompletion 100 false]) ∧
      done.notifyOnAdd = false ∧ (done.setColumn 2 [one]).2 = [] := by
  intro one start calls done
  have hquiet : (start.after [.setColumn 0 [one]]).told
      [.setColumn 1 [one], .setCompletion 100 false] = [] := by
    simp only [start, one]
    decide +kernel
  have hmode : done.notifyOnAdd = false := by
    simp only [done, calls, start, one]
    decide +kernel
  have hlater : (done.setColumn 2 [one]).2 = [] := by
    simp only [done, calls, start, one]
    decide +kernel
  refine ⟨fun hends => ?_, ?_, hmode, hlater⟩
  · exact Bool.false_ne_true (hmode.symm.trans hends.atOnce)
  · rintro ⟨n, hn, _⟩
    rw [hquiet] at hn
    cases hn

end AudioHost.Grid
