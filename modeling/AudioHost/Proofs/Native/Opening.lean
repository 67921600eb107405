import AudioHost.Proofs.Native.Users

/-!
Opening a library and closing it again. A library that is closed by its only user leaves the linker
as it was, but for the next number and the journal, and so does a user that comes and goes.
-/

namespace AudioHost

namespace Linker

variable {l : Linker} {uses : Nat → Nat} {o : OpenLibrary} {n : Nat}

/-! ## The latest library -/

/-- Every open library has a number below the next one. -/
def Fresh (l : Linker) : Prop := ∀ o ∈ l.opened, o.number < l.next

/-- A linker whose users are counted gave out the numbers of all open libraries. -/
theorem Sound.fresh (h : l.Sound uses) : l.Fresh := by
  intro o ho
  refine Nat.lt_of_not_le fun hle => ?_
  have hnever := h.never o.number hle
  have heq := h.handles_eq o.number
  have hpos := handles_pos_iff.mpr ⟨o, ho, rfl⟩
  omega

/-- The linker with one more library, and a journal of what happened. -/
def withOpened (l : Linker) (o : OpenLibrary) (j : Journal) : Linker :=
  { l with opened := l.opened ++ [o], next := l.next + 1, journal := j }

theorem find?_withOpened (h : l.Fresh) (ho : o.number = l.next) (j : Journal) :
    (l.withOpened o j).find? l.next = some o := by
  have hnone : l.opened.find? (fun x => x.number == l.next) = none := by
    refine List.find?_eq_none.mpr fun x hx => ?_
    simpa using Nat.ne_of_lt (h x hx)
  simp [find?, withOpened, List.find?_append, hnone, ho]

theorem forget_withOpened (h : l.Fresh) (ho : o.number = l.next) (j : Journal) :
    (l.withOpened o j).forget l.next = { l with next := l.next + 1, journal := j } := by
  have hkeep : l.opened.filter (fun x => x.number != l.next) = l.opened := by
    refine List.filter_eq_self.mpr fun x hx => ?_
    simpa using Nat.ne_of_lt (h x hx)
  simp [forget, withOpened, hkeep, ho]

/-- How closing a library at a path goes. -/
def closing (p : Path) : Option String → Except PluginError Unit
  | some reason => .error (.unloadFailure p reason)
  | none => .ok ()

/-- When the latest library is closed by its only user, the linker is as it was without it, but for
the next number and the journal. -/
theorem close_withOpened (h : l.Fresh) (ho : o.number = l.next) (husers : o.users = 1)
    (j : Journal) : (l.withOpened o j).close l.next =
      (closing o.path o.closeFault,
        { l with next := l.next + 1, journal := j ++ [.closed l.next o.path] }) := by
  simp only [close, find?_withOpened h ho j, husers, Nat.le_refl, if_true, forget_withOpened h ho j,
    note]
  rcases o.closeFault with _ | reason
  · rfl
  · rfl

/-- The same for a library that was just opened. -/
theorem close_opened (h : l.Fresh) (p : Path) (exports : Exports) (closeFault : Option String)
    (bySystem : Bool) (j : Journal) :
    close { l with
      opened := l.opened ++ [⟨l.next, p, exports, closeFault, bySystem, 1⟩]
      next := l.next + 1
      journal := j } l.next =
      (closing p closeFault, { l with next := l.next + 1, journal := j ++ [.closed l.next p] }) :=
  close_withOpened h rfl rfl j

/-! ## Coming and going -/

/-- A user that comes to a library and goes again leaves it as it was. -/
theorem unshare_share (hfind : l.find? n = some o) (husers : 0 < o.users) (j : Journal) :
    ({ l.share n with journal := j }).unshare n = { l with journal := j } := by
  have hnumber : o.number = n := by simpa using List.find?_some hfind
  have hfound : ({ l.share n with journal := j } : Linker).find? n =
      some { o with users := o.users + 1 } := by
    unfold find? at hfind ⊢
    have hsame : ((fun x : OpenLibrary => x.number == n) ∘ fun x : OpenLibrary =>
        if x.number = n then { x with users := x.users + 1 } else x) = fun x => x.number == n := by
      funext x
      simp only [Function.comp_apply]
      split <;> rfl
    simp only [share, update, List.find?_map, hsame, hfind, Option.map_some, hnumber, if_true]
  have hback : (l.share n).opened.map (fun x : OpenLibrary =>
      if x.number = n then { x with users := x.users - 1 } else x) = l.opened := by
    simp only [share, update, List.map_map]
    refine (List.map_congr_left fun x _ => ?_).trans (List.map_id _)
    simp only [Function.comp_apply, id_eq]
    by_cases heq : x.number = n
    · subst heq
      simp
    · simp [heq]
  unfold unshare
  rw [hfound]
  simp only [Nat.not_le.mpr (Nat.succ_lt_succ husers), if_false, update, hback]
  rfl

end Linker

/-! ## Borrowing -/

namespace Journal

/-- A journal tells that libraries were borrowed and nothing else, and so does the number for the
next opening. Each library that was opened was closed at once. -/
inductive Borrows (first : Nat) : Journal → Nat → Prop
  | nothing : Borrows first [] first
  | openFailed {j : Journal} {n : Nat} (h : Borrows first j n) (p : Path) :
    Borrows first (j ++ [.openFailed p]) n
  | borrowed {j : Journal} {n : Nat} (h : Borrows first j n) (p : Path) (specimen : Bool) :
    Borrows first (j ++ [.opened n p specimen, .closed n p]) (n + 1)

variable {first n n' : Nat} {j j' : Journal}

theorem Borrows.le (h : Borrows first j n) : first ≤ n := by
  induction h with
  | nothing => exact Nat.le_refl _
  | openFailed _ _ ih => exact ih
  | borrowed _ _ _ ih => exact Nat.le_succ_of_le ih

theorem Borrows.trans (h : Borrows first j n) (h' : Borrows n j' n') :
    Borrows first (j ++ j') n' := by
  induction h' with
  | nothing =>
    rw [List.append_nil]
    exact h
  | openFailed _ p ih =>
    rw [← List.append_assoc]
    exact .openFailed ih p
  | borrowed _ p specimen ih =>
    rw [← List.append_assoc]
    exact .borrowed ih p specimen

end Journal

end AudioHost
