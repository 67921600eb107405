import AudioHost.Proofs.Rack.Uses

/-!
How effects are switched on and off. The calls that do it take turns, however an effect is used, and
one that is left on is switched off before it is cleaned up.
-/

namespace AudioHost

/-! ## Calls in a journal -/

/-- A call switches an effect on or off. -/
def NativeCall.switches : NativeCall → Bool
  | .activate => true
  | .deactivate => true
  | _ => false

/-- The call that an event is, if it is one. -/
def Event.call? : Event → Option NativeCall
  | .called _ _ call => some call
  | _ => none

namespace Journal

/-- The calls in a journal. -/
def calls (j : Journal) : List NativeCall := j.filterMap Event.call?

/-- The calls in a journal that switch effects on and off. -/
def switches (j : Journal) : List NativeCall := j.calls.filter NativeCall.switches

theorem calls_append (j j' : Journal) : (j ++ j').calls = j.calls ++ j'.calls :=
  List.filterMap_append

theorem calls_called (n : Nat) (listedAs : Option String) (cs : List NativeCall) :
    calls (cs.map (.called n listedAs)) = cs := by
  induction cs with
  | nil => rfl
  | cons c cs ih => exact congrArg (c :: ·) ih

theorem switches_append (j j' : Journal) : (j ++ j').switches = j.switches ++ j'.switches := by
  rw [switches, calls_append, List.filter_append, switches, switches]

theorem switches_called (n : Nat) (listedAs : Option String) (cs : List NativeCall) :
    switches (cs.map (.called n listedAs)) = cs.filter NativeCall.switches := by
  rw [switches, calls_called]

end Journal

/-- Something stands at the end of a row, and nowhere before. -/
def LastOnly {α : Type} (row : List α) (a : α) : Prop := ∃ front, row = front ++ [a] ∧ a ∉ front

/-! ## Turns -/

/-- An effect that was off at first is switched on and off in turns, and it is on or off now. -/
inductive Switched : Bool → List NativeCall → Prop
  | new : Switched false []
  | on {cs : List NativeCall} (h : Switched false cs) : Switched true (cs ++ [.activate])
  | off {cs : List NativeCall} (h : Switched true cs) : Switched false (cs ++ [.deactivate])

variable {active : Bool} {cs : List NativeCall}

theorem Switched.getLast?_eq_iff (h : Switched active cs) :
    cs.getLast? = some .activate ↔ active = true := by
  cases h <;> simp

/-- The calls that end an effect, after it was switched by some others. -/
def endingCalls (switches : List NativeCall) : List NativeCall :=
  (if switches.getLast? = some .activate then [.deactivate] else []) ++ [.cleanup]

theorem lastOnly_endingCalls (h : .cleanup ∉ cs) (switches : List NativeCall) :
    LastOnly (cs ++ endingCalls switches) .cleanup := by
  refine ⟨cs ++ if switches.getLast? = some .activate then [.deactivate] else [], ?_,
    fun hmem => ?_⟩
  · rw [endingCalls, List.append_assoc]
  · rcases List.mem_append.mp hmem with hmem | hmem
    · exact h hmem
    · split at hmem <;> simp at hmem

/-- An effect is off when it has ended. -/
theorem Switched.ended (h : Switched active cs) :
    Switched false (cs ++ (endingCalls cs).filter NativeCall.switches) := by
  have hlast := h.getLast?_eq_iff
  unfold endingCalls
  cases active with
  | true =>
    rw [if_pos (hlast.mpr rfl)]
    exact h.off
  | false =>
    rw [if_neg fun hon => nomatch hlast.mp hon]
    exact (List.append_nil cs).symm ▸ h

namespace EffectEngine

variable {e e' : EffectEngine} {op : Operation} {b : Buffers} {t : Turn}

theorem Turns.switched (h : e.Turns b op t) (he : t.engine = .effect e')
    (hon : e.descriptor.functions.activate = true)
    (hoff : e.descriptor.functions.deactivate = true) :
    .cleanup ∉ t.calls ∧ ∀ cs, Switched e.active cs →
      Switched e'.active (cs ++ t.calls.filter NativeCall.switches) := by
  -- Most turns make no call that switches.
  have hkept : ∀ calls : List NativeCall, calls.filter NativeCall.switches = [] →
      ∀ cs, Switched e.active cs →
        Switched e.active (cs ++ calls.filter NativeCall.switches) := by
    intro calls hnone cs hcs
    rwa [hnone, List.append_nil]
  cases h with
  | connected wired hport =>
    cases he
    cases hhas : e.descriptor.functions.connectPort with
    | false => exact ⟨List.not_mem_nil, hkept [] rfl⟩
    | true => exact ⟨by simp [callIf], hkept [.connectPort _] rfl⟩
  | switchedOn hactive =>
    cases he
    rw [hon, hactive]
    exact ⟨by simp [callIf], fun cs hcs => hcs.on⟩
  | switchedOff hactive =>
    cases he
    rw [hoff, hactive]
    exact ⟨by simp [callIf], fun cs hcs => hcs.off⟩
  | ran b' hports hrun =>
    cases he
    exact ⟨by simp, hkept [.run _] rfl⟩
  | _ =>
    cases he
    exact ⟨List.not_mem_nil, hkept [] rfl⟩

theorem release_eq (hoff : e.descriptor.functions.deactivate = true)
    (hcleanup : e.descriptor.functions.cleanup = true) {switches : List NativeCall}
    (h : Switched e.active switches) : e.release = endingCalls switches := by
  simp only [release, hoff, hcleanup, callIf, Bool.and_true, if_true, endingCalls,
    h.getLast?_eq_iff]

end EffectEngine

namespace Instance

variable {i : Instance} {e : EffectEngine} {m : Machine}

/-- However an effect is used, it is switched on and off in turns and not cleaned up. -/
theorem switched_noted (h : i.engine = .effect e) (hon : e.descriptor.functions.activate = true)
    (hoff : e.descriptor.functions.deactivate = true) (uses : List Use) :
    (∀ event ∈ i.noted uses, ∃ call, event = .called i.library e.descriptor.listedAs call ∧
        call ≠ .cleanup) ∧
      ∃ e', i.after uses = { i with engine := .effect e' } ∧ e'.descriptor = e.descriptor ∧
        ∀ cs, Switched e.active cs → Switched e'.active (cs ++ (i.noted uses).switches) := by
  induction uses generalizing i e with
  | nil =>
    refine ⟨fun event hevent => absurd hevent List.not_mem_nil, e, by rw [← h]; rfl, rfl, ?_⟩
    intro cs hcs
    exact (List.append_nil cs).symm ▸ hcs
  | cons u uses ih =>
    obtain ⟨t, e₁, hturns, hengine, hdescriptor, _, hnext, hnoted⟩ := use_first h u uses
    obtain ⟨hnone, hswitched⟩ := hturns.switched hengine hon hoff
    rw [← hdescriptor] at hon hoff
    obtain ⟨hcalls, e', hrest, hdescriptor', hlater⟩ :=
      ih (i := { i with engine := .effect e₁ }) rfl hon hoff
    rw [after_cons, hnext, hnoted]
    refine ⟨fun event hevent => ?_, e', hrest, hdescriptor'.trans hdescriptor, fun cs hcs => ?_⟩
    · rcases List.mem_append.mp hevent with hnow | hlater
      · obtain ⟨call, hcall, rfl⟩ := List.mem_map.mp hnow
        exact ⟨call, rfl, fun heq => hnone (heq ▸ hcall)⟩
      · rw [← hdescriptor]
        exact hcalls event hlater
    · -- The first turn comes right after the calls before, and the others after it.
      rw [Journal.switches_append, Journal.switches_called, ← List.append_assoc]
      exact hlater _ (hswitched cs hcs)

/-- When an instance ends its last calls are made, and after all that it is told that it is gone. -/
theorem added_finish (i : Instance) (m : Machine) :
    ∃ front, m.added (i.finish m) = front ++ [.released i.number] ∧
      Journal.calls front = i.engine.release ∧ ∀ n, .released n ∉ front := by
  let called := m.noteCalls i.library i.engine.listedAs i.engine.release
  -- Only that the library is dropped may come after the calls.
  obtain ⟨gone, hgone, hdropped⟩ := called.linker.adds_unshare i.library
  have hended : (called.unshare i.library).journal = called.journal ++ gone := hgone
  have hquiet : Journal.calls gone = [] := by
    refine List.filterMap_eq_nil_iff.mpr fun event hevent => ?_
    obtain ⟨path, rfl⟩ := hdropped event hevent
    rfl
  refine ⟨i.engine.release.map (.called i.library i.engine.listedAs) ++ gone,
    Machine.added_eq ?_, ?_, fun n hmem => ?_⟩
  · show (called.unshare i.library).journal ++ [.released i.number] = _
    rw [hended, Machine.journal_noteCalls]
    simp only [List.append_assoc]
  · rw [Journal.calls_append, Journal.calls_called, hquiet, List.append_nil]
  · rcases List.mem_append.mp hmem with hmem | hmem
    · obtain ⟨call, _, hcall⟩ := List.mem_map.mp hmem
      cases hcall
    · obtain ⟨path, heq⟩ := hdropped _ hmem
      cases heq

/-! ## The law -/

/-- Take an effect with functions to switch it on and off and to clean up, and use it in any way. It
is switched on and off in turns, first on and last off. When it ends it is switched off if it was
switched on last, then cleaned up, which is the last call and the only one of its kind; and at the
very end it is told, once, that the instance is gone. A use that is refused makes no call and
changes nothing. -/
theorem an_effect_is_switched_in_turns_and_cleaned_up_once (d : EffectDescriptor)
    (hon : d.functions.activate = true) (hoff : d.functions.deactivate = true)
    (hcleanup : d.functions.cleanup = true) (rack library : Nat) (id : Identifier) (rate : Single)
    (m₀ m₁ : Machine) (i : Instance)
    (hmade : create rack id rate library (.effect d) m₀ = (.ok i, m₁)) (uses : List Use)
    (m : Machine) :
    let used := i.noted uses
    let ended := m.added ((i.after uses).finish m)
    Switched false (used ++ ended).switches ∧
    ended.calls = endingCalls used.switches ∧
    LastOnly (used ++ ended).calls .cleanup ∧
    LastOnly (used ++ ended) (.released i.number) ∧
    ∀ before u later error, uses = before ++ u :: later →
      ((i.after before).perform u.op u.machine).1 = .error error →
      ((i.after before).perform u.op u.machine).2 = (i.after before, u.machine) := by
  intro used ended
  obtain ⟨hengine, _⟩ := create_effect hmade
  obtain ⟨hcalled, e, hafter, hdescriptor, hturns⟩ := switched_noted hengine hon hoff uses
  have hused : Switched e.active used.switches := hturns [] .new
  obtain ⟨front, hended, hfront, htold⟩ := added_finish (i.after uses) m
  have hnumber : (i.after uses).number = i.number := by rw [hafter]
  replace hended : ended = front ++ [.released i.number] := hnumber ▸ hended
  have hcalls : ended.calls = endingCalls used.switches := by
    replace hdescriptor : e.descriptor = d := hdescriptor
    rw [← hdescriptor] at hoff hcleanup
    rw [hended, Journal.calls_append, hfront, hafter]
    exact (List.append_nil _).trans (EffectEngine.release_eq hoff hcleanup hused)
  refine ⟨?_, hcalls, ?_, ?_, ?_⟩
  · rw [Journal.switches_append, Journal.switches, Journal.switches, hcalls]
    exact hused.ended
  · rw [Journal.calls_append, hcalls]
    refine lastOnly_endingCalls (fun hmem => ?_) _
    obtain ⟨event, hevent, hcall⟩ := List.mem_filterMap.mp hmem
    obtain ⟨call, rfl, hne⟩ := hcalled event hevent
    exact hne (Option.some.inj hcall)
  · refine ⟨used ++ front, by rw [hended, List.append_assoc], fun hmem => ?_⟩
    rcases List.mem_append.mp hmem with hmem | hmem
    · obtain ⟨call, hcall, _⟩ := hcalled _ hmem
      cases hcall
    · exact htold _ hmem
  · rintro before u later error - herror
    obtain ⟨e', hbefore, _⟩ := after_effect hengine before
    exact perform_refused (by rw [hbefore]) herror

/-- An amplifier is switched on twice, refused a run without buffers and a reset, and left on. -/
theorem an_amplifier_that_is_left_on_is_switched_off_at_its_end :
    let uses : List Use := [.activate, .activate, .run 4, .deactivate, .reset, .activate].map
      fun op => ⟨op, .shop⟩
    let used := amplifier.noted uses
    let ended := Machine.shop.added ((amplifier.after uses).finish .shop)
    used.calls = [.activate, .deactivate, .activate] ∧ ended.calls = [.deactivate, .cleanup] ∧
      Switched false (used ++ ended).switches ∧ LastOnly (used ++ ended) (.released 0) := by
  intro uses used ended
  obtain ⟨hturns, hended, _, htold, _⟩ :=
    an_effect_is_switched_in_turns_and_cleaned_up_once Specimen.mono rfl rfl rfl 0 0
      ⟨.ladspa, "a.so", "amp_mono"⟩ .one .shop _ amplifier create_amplifier uses .shop
  have hused : used.calls = [.activate, .deactivate, .activate] := by decide +kernel
  refine ⟨hused, hended.trans ?_, hturns, htold⟩
  rw [Journal.switches, hused]
  rfl

end Instance

end AudioHost
