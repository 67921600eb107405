import AudioHost.Native.Journal

/-!
When the libraries of a journal live. A library is opened once, its plugins are called while it is
open, and it ends once: it is closed, or it is dropped.
-/

namespace AudioHost

/-- An event opens a library. -/
def Event.opens (n : Nat) : Event → Bool
  | .opened m _ _ => m == n
  | _ => false

/-- An event ends a library: it is closed or dropped. -/
def Event.ends (n : Nat) : Event → Bool
  | .closed m _ => m == n
  | .dropped m _ => m == n
  | _ => false

/-- An event closes only some libraries, and it drops only some. -/
def Event.EndsOnly (closes drops : Nat → Prop) : Event → Prop
  | .closed n _ => closes n
  | .dropped n _ => drops n
  | _ => True

namespace Journal

/-- How often a library was opened. -/
def openings (j : Journal) (n : Nat) : Nat := j.countP (Event.opens n)

/-- How often a library was ended. -/
def endings (j : Journal) (n : Nat) : Nat := j.countP (Event.ends n)

/-- A library was opened and has not ended. -/
def StillOpen (j : Journal) (n : Nat) : Prop := 0 < openings j n ∧ endings j n = 0

/-- An event that can come after some others: a library is opened for the first time, or a library
that is open is called or ended. -/
def Timely (before : Journal) : Event → Prop
  | .opened n _ _ => openings before n = 0
  | .openFailed _ => True
  | .closed n _ => StillOpen before n
  | .dropped n _ => StillOpen before n
  | .deferred n _ => StillOpen before n
  | .called n _ _ => StillOpen before n
  | .released _ => True

/-- Every event comes at a time when it can. -/
def WellTimed (j : Journal) : Prop := ∀ before e after, j = before ++ e :: after → Timely before e

theorem wellTimed_nil : WellTimed [] := by
  intro before e after h
  simp at h

theorem wellTimed_snoc {j : Journal} {e : Event} (hj : WellTimed j) (he : Timely j e) :
    WellTimed (j ++ [e]) := by
  intro before f after h
  -- The event is the last one, or it has its place before the last one.
  rcases List.eq_nil_or_concat after with rfl | ⟨rest, g, rfl⟩
  · obtain ⟨rfl, hf⟩ := List.append_inj' h rfl
    rw [← List.singleton_inj.mp hf]
    exact he
  · rw [List.concat_eq_append, ← List.cons_append, ← List.append_assoc] at h
    exact hj before f rest (List.append_inj_left' h rfl)

theorem openings_snoc (j : Journal) (e : Event) (n : Nat) :
    openings (j ++ [e]) n = openings j n + (e.opens n).toNat := by
  cases he : e.opens n <;> simp [openings, List.countP_append, he]

theorem endings_snoc (j : Journal) (e : Event) (n : Nat) :
    endings (j ++ [e]) n = endings j n + (e.ends n).toNat := by
  cases he : e.ends n <;> simp [endings, List.countP_append, he]

/-! ## What is added to a journal -/

/-- A journal goes on from another, with events of some kind only. -/
def Adds (ok : Event → Prop) (j j' : Journal) : Prop := ∃ new, j' = j ++ new ∧ ∀ e ∈ new, ok e

variable {ok ok' : Event → Prop} {j j' j'' : Journal} {e : Event}

theorem adds_refl (ok : Event → Prop) (j : Journal) : Adds ok j j := ⟨[], by simp, by simp⟩

theorem adds_snoc (he : ok e) : Adds ok j (j ++ [e]) := by
  refine ⟨[e], rfl, fun f hf => ?_⟩
  rw [List.mem_singleton.mp hf]
  exact he

theorem Adds.trans (h : Adds ok j j') (h' : Adds ok j' j'') : Adds ok j j'' := by
  obtain ⟨new, rfl, hnew⟩ := h
  obtain ⟨new', rfl, hnew'⟩ := h'
  refine ⟨new ++ new', by simp, fun e he => ?_⟩
  rcases List.mem_append.mp he with he | he
  · exact hnew e he
  · exact hnew' e he

theorem Adds.mem (h : Adds ok j j') (he : e ∈ j) : e ∈ j' := by
  obtain ⟨new, rfl, _⟩ := h
  exact List.mem_append_left new he

theorem Adds.imp (h : Adds ok j j') (hok : ∀ e, ok e → ok' e) : Adds ok' j j' := by
  obtain ⟨new, heq, hnew⟩ := h
  exact ⟨new, heq, fun e he => hok e (hnew e he)⟩

theorem Adds.of_append {new : List Event} (h : Adds ok j j') (heq : j' = j ++ new) :
    ∀ e ∈ new, ok e := by
  obtain ⟨new', rfl, hnew⟩ := h
  rw [← List.append_cancel_left heq]
  exact hnew

/-! ## Ends that are added -/

/-- A journal goes on from another. Only some libraries are closed in what is added, and only some
are dropped. -/
abbrev AddsEnds (closes drops : Nat → Prop) (j j' : Journal) : Prop :=
  Adds (Event.EndsOnly closes drops) j j'

/-- No number. -/
def noNumber : Nat → Prop := fun _ => False

variable {closes drops closes' drops' : Nat → Prop}

theorem Adds.mono (h : AddsEnds closes drops j j') (hc : ∀ n, closes n → closes' n)
    (hd : ∀ n, drops n → drops' n) : AddsEnds closes' drops' j j' := by
  refine h.imp fun e he => ?_
  cases e with
  | closed n p => exact hc n he
  | dropped n p => exact hd n he
  | _ => trivial

/-- Where nothing is ended, no library is that should not be. -/
theorem Adds.of_none (h : AddsEnds noNumber noNumber j j') : AddsEnds closes drops j j' :=
  h.mono (fun _ => False.elim) (fun _ => False.elim)

/-! ## One event that is added -/

/-- A journal adds an event to another. -/
def AddsEvent (e : Event) (j j' : Journal) : Prop := ∃ front back, j' = j ++ (front ++ e :: back)

theorem addsEvent_snoc (j : Journal) (e : Event) : AddsEvent e j (j ++ [e]) := ⟨[], [], rfl⟩

theorem AddsEvent.after (h : AddsEvent e j' j'') (hadds : Adds ok j j') : AddsEvent e j j'' := by
  obtain ⟨front, back, rfl⟩ := h
  obtain ⟨new, rfl, _⟩ := hadds
  exact ⟨new ++ front, back, by simp⟩

theorem AddsEvent.before (h : AddsEvent e j j') (hadds : Adds ok j' j'') : AddsEvent e j j'' := by
  obtain ⟨front, back, rfl⟩ := h
  obtain ⟨new, rfl, _⟩ := hadds
  exact ⟨front, back ++ new, by simp⟩

end Journal

end AudioHost
