import AudioHost.Native.Linker
import AudioHost.Proofs.Native.Lifetimes

/-!
The laws of open libraries and their users. As long as the users of each library are counted right,
every library is open from its opening to the moment when its last user closes it or goes away.
-/

namespace AudioHost

/-- One user of one library, and none of any other. -/
def just (n m : Nat) : Nat := if m = n then 1 else 0

/-- No user of any library. -/
def nobody (_ : Nat) : Nat := 0

theorem just_self (n : Nat) : just n n = 1 := if_pos rfl

theorem just_of_ne {n m : Nat} (h : m ≠ n) : just n m = 0 := if_neg h

theorem if_beq_eq_just (n m : Nat) : (if (n == m) = true then 1 else 0) = just n m := by
  by_cases h : m = n
  · rw [h, beq_self_eq_true, just_self, if_pos rfl]
  · rw [just_of_ne h, if_neg (by simpa using Ne.symm h)]

namespace Linker

open Journal

/-! ## The invariant -/

/-- How many open libraries have a number. -/
def handles (l : Linker) (n : Nat) : Nat := l.opened.countP fun o => o.number == n

/-- The linker and its journal agree, and every open library has the users that it is said to
have. -/
structure Sound (l : Linker) (uses : Nat → Nat) : Prop where
  once : ∀ n, n < l.next → openings l.journal n = 1
  never : ∀ n, l.next ≤ n → openings l.journal n = 0
  handles_eq : ∀ n, openings l.journal n = endings l.journal n + l.handles n
  users_eq : ∀ o ∈ l.opened, o.users = uses o.number
  used : ∀ o ∈ l.opened, 0 < o.users
  held : ∀ n, 0 < uses n → 0 < l.handles n
  timely : WellTimed l.journal
  kept : ∀ n p, .deferred n p ∉ l.journal

variable {l : Linker} {uses uses' : Nat → Nat}

theorem sound_start (sources : List (Path × LibrarySource)) (elsewhere : LibrarySource) :
    (start sources elsewhere).Sound nobody where
  once := by intro n hn; simp [start] at hn
  never := by intro n _; simp [start, openings]
  handles_eq := by intro n; simp [start, openings, endings, handles]
  users_eq := by intro o ho; simp [start] at ho
  used := by intro o ho; simp [start] at ho
  held := by intro n hn; cases hn
  timely := wellTimed_nil
  kept := by intro n p hn; simp [start] at hn

theorem Sound.congr (h : l.Sound uses) (heq : ∀ n, uses' n = uses n) : l.Sound uses' := by
  rw [funext heq]
  exact h

/-- Only the open libraries, the next number and the journal matter. -/
theorem Sound.transfer {l' : Linker} (h : l.Sound uses) (ho : l'.opened = l.opened)
    (hn : l'.next = l.next) (hj : l'.journal = l.journal) : l'.Sound uses := by
  obtain ⟨h1, h2, h3, h4, h5, h6, h7, h8⟩ := h
  refine ⟨?_, ?_, ?_, ?_, ?_, ?_, ?_, ?_⟩ <;> simpa only [handles, ho, hn, hj] using ‹_›

/-! ## Finding an open library -/

theorem handles_pos_iff {n : Nat} : 0 < l.handles n ↔ ∃ o ∈ l.opened, o.number = n := by
  simp [handles, List.countP_pos_iff]

/-- A library that is used is found among the open ones. -/
theorem Sound.find?_of_used (h : l.Sound uses) {n : Nat} (hn : 0 < uses n) :
    ∃ o, l.find? n = some o ∧ o ∈ l.opened ∧ o.number = n ∧ o.users = uses n := by
  obtain ⟨o, ho⟩ : ∃ o, l.find? n = some o := by
    obtain ⟨o, ho, hnumber⟩ := handles_pos_iff.mp (h.held n hn)
    rw [← Option.isSome_iff_exists, find?, List.find?_isSome]
    exact ⟨o, ho, by simpa using hnumber⟩
  have hmem := List.mem_of_find?_eq_some ho
  have hnumber : o.number = n := by simpa using List.find?_some ho
  exact ⟨o, ho, hmem, hnumber, by rw [h.users_eq o hmem, hnumber]⟩

theorem Sound.openings_le_one (h : l.Sound uses) (n : Nat) : openings l.journal n ≤ 1 := by
  rcases Nat.lt_or_ge n l.next with hn | hn
  · exact Nat.le_of_eq (h.once n hn)
  · rw [h.never n hn]
    exact Nat.zero_le 1

theorem Sound.stillOpen_iff (h : l.Sound uses) (n : Nat) : StillOpen l.journal n ↔ 0 < uses n := by
  have hone := h.openings_le_one n
  have heq := h.handles_eq n
  constructor
  · rintro ⟨hopen, hend⟩
    obtain ⟨o, ho, rfl⟩ := handles_pos_iff.mp (by omega : 0 < l.handles n)
    rw [← h.users_eq o ho]
    exact h.used o ho
  · intro hn
    have := h.held n hn
    exact ⟨by omega, by omega⟩

/-- The next number was never given out. -/
theorem Sound.uses_next (h : l.Sound uses) {n : Nat} (hn : l.next ≤ n) : uses n = 0 := by
  rcases Nat.eq_zero_or_pos (uses n) with h0 | hpos
  · exact h0
  · have hopen := ((h.stillOpen_iff n).mpr hpos).1
    rw [h.never n hn] at hopen
    omega

/-! ## Events that open and end nothing -/

theorem Sound.note (h : l.Sound uses) {e : Event} (htimely : Timely l.journal e)
    (hopens : ∀ n, e.opens n = false) (hends : ∀ n, e.ends n = false)
    (hkept : ∀ n p, e ≠ .deferred n p) : (l.note e).Sound uses where
  once := by
    intro n hn
    simp only [Linker.note, openings_snoc, hopens, h.once n hn]
    rfl
  never := by
    intro n hn
    simp only [Linker.note, openings_snoc, hopens, h.never n hn]
    rfl
  handles_eq := by
    intro n
    have := h.handles_eq n
    simp only [Linker.note, openings_snoc, endings_snoc, hopens, hends]
    exact this
  users_eq := h.users_eq
  used := h.used
  held := h.held
  timely := wellTimed_snoc h.timely htimely
  kept := by
    intro n p hn
    rcases List.mem_append.mp hn with hn | hn
    · exact h.kept n p hn
    · exact hkept n p (List.mem_singleton.mp hn).symm

theorem Sound.note_called (h : l.Sound uses) {n : Nat} (hn : 0 < uses n) (plugin : Option String)
    (call : NativeCall) : (l.note (.called n plugin call)).Sound uses :=
  h.note ((h.stillOpen_iff n).mpr hn) (fun _ => rfl) (fun _ => rfl) (fun _ _ => nofun)

/-! ## Opening -/

theorem openAt_error {t : FileTree} {p : Path} {e : PluginError} {l' : Linker}
    (h : l.openAt t p = (.error e, l')) : l' = l.note (.openFailed p) := by
  unfold openAt at h
  dsimp only at h
  split at h
  · cases h
    rfl
  · cases h

theorem openAt_ok {t : FileTree} {p : Path} {o : OpenLibrary} {l' : Linker}
    (h : l.openAt t p = (.ok o, l')) :
    o.number = l.next ∧ o.path = p ∧ o.users = 1 ∧
      ∃ specimen, l' = { l with opened := l.opened ++ [o], next := l.next + 1 }.note
        (.opened l.next p specimen) := by
  unfold openAt at h
  dsimp only at h
  split at h
  · cases h
  · cases h
    exact ⟨rfl, rfl, rfl, _, rfl⟩

theorem Sound.openAt_error (h : l.Sound uses) {t : FileTree} {p : Path} {e : PluginError}
    {l' : Linker} (ho : l.openAt t p = (.error e, l')) : l'.Sound uses := by
  rw [Linker.openAt_error ho]
  exact h.note trivial (fun _ => rfl) (fun _ => rfl) (fun _ _ => nofun)

/-- A library that is opened has one user. -/
theorem Sound.openAt_ok (h : l.Sound uses) {t : FileTree} {p : Path} {o : OpenLibrary}
    {l' : Linker} (ho : l.openAt t p = (.ok o, l'))
    (huses : ∀ n, uses' n = uses n + just l.next n) : l'.Sound uses' := by
  obtain ⟨hnumber, _, husers, specimen, rfl⟩ := Linker.openAt_ok ho
  have hhandles : ∀ n, (l.opened ++ [o]).countP (fun o => o.number == n) =
      l.handles n + (l.next == n).toNat := by
    intro n
    rw [List.countP_append, List.countP_singleton, hnumber]
    cases l.next == n <;> rfl
  -- The number was never given out, so nobody uses the library yet.
  have hnew : uses l.next = 0 := h.uses_next (Nat.le_refl l.next)
  refine ⟨?_, ?_, ?_, ?_, ?_, ?_, ?_, ?_⟩
  · intro n hn
    simp only [Linker.note, openings_snoc, Event.opens]
    rcases Nat.lt_succ_iff_lt_or_eq.mp hn with hlt | rfl
    · rw [h.once n hlt, beq_false_of_ne (by omega), Bool.toNat_false]
    · rw [h.never l.next (Nat.le_refl _), beq_self_eq_true, Bool.toNat_true]
  · intro n hn
    have hlt : l.next < n := hn
    simp only [Linker.note, openings_snoc, Event.opens]
    rw [h.never n (by omega), beq_false_of_ne (by omega), Bool.toNat_false]
  · intro n
    have := h.handles_eq n
    simp only [Linker.note, handles, openings_snoc, endings_snoc, hhandles n, Event.opens,
      Event.ends] at this ⊢
    simp only [Bool.toNat_false]
    omega
  · intro x hx
    rcases List.mem_append.mp hx with hx | hx
    · have hused := h.used x hx
      rw [h.users_eq x hx] at hused
      have hne : x.number ≠ l.next := by
        intro heq
        rw [heq, hnew] at hused
        exact Nat.lt_irrefl 0 hused
      rw [huses, h.users_eq x hx, just_of_ne hne, Nat.add_zero]
    · rw [List.mem_singleton.mp hx, huses, hnumber, husers, hnew, just_self]
  · intro x hx
    rcases List.mem_append.mp hx with hx | hx
    · exact h.used x hx
    · rw [List.mem_singleton.mp hx, husers]
      exact Nat.one_pos
  · intro n hn
    rw [huses] at hn
    simp only [Linker.note, handles, hhandles n]
    by_cases heq : n = l.next
    · simp [heq]
    · rw [just_of_ne heq] at hn
      exact Nat.add_pos_left (h.held n hn) _
  · refine wellTimed_snoc h.timely ?_
    exact h.never l.next (Nat.le_refl _)
  · intro n q hn
    rcases List.mem_append.mp hn with hn | hn
    · exact h.kept n q hn
    · cases List.mem_singleton.mp hn

/-! ## More and fewer users -/

theorem handles_update (l : Linker) (n m : Nat) {f : OpenLibrary → OpenLibrary}
    (hf : ∀ o, (f o).number = o.number) : (l.update n f).handles m = l.handles m := by
  simp only [handles, update, List.countP_map]
  refine List.countP_congr ?_
  intro o _
  by_cases ho : o.number = n
  · simp [ho, hf]
  · simp [ho]

theorem handles_forget (l : Linker) (n m : Nat) :
    (l.forget n).handles m = if m = n then 0 else l.handles m := by
  simp only [handles, forget, List.countP_filter]
  split
  · next heq => simp [heq]
  · next hne =>
    refine List.countP_congr ?_
    intro o _
    simp only [Bool.and_eq_true, beq_iff_eq, bne_iff_ne]
    constructor
    · exact fun ho => ho.1
    · exact fun ho => ⟨ho, by omega⟩

/-- The users of an open library change while some are left. -/
theorem Sound.update (h : l.Sound uses) {n : Nat} {f : OpenLibrary → OpenLibrary}
    (hnumber : ∀ o, (f o).number = o.number)
    (husers : ∀ o ∈ l.opened, o.number = n → (f o).users = uses' n)
    (hn : 0 < uses n) (hn' : 0 < uses' n) (huses : ∀ m, m ≠ n → uses' m = uses m) :
    (l.update n f).Sound uses' where
  once := h.once
  never := h.never
  handles_eq := by
    intro m
    rw [handles_update l n m hnumber]
    exact h.handles_eq m
  users_eq := by
    intro x hx
    obtain ⟨o, ho, rfl⟩ := List.mem_map.mp hx
    split
    · next heq => rw [husers o ho heq, hnumber, heq]
    · next hne => rw [h.users_eq o ho, huses o.number hne]
  used := by
    intro x hx
    obtain ⟨o, ho, rfl⟩ := List.mem_map.mp hx
    split
    · next heq =>
      rw [husers o ho heq]
      exact hn'
    · exact h.used o ho
  held := by
    intro m hm
    rw [handles_update l n m hnumber]
    by_cases heq : m = n
    · rw [heq]
      exact h.held n hn
    · rw [huses m heq] at hm
      exact h.held m hm
  timely := h.timely
  kept := h.kept

theorem openings_ending (l : Linker) (n m : Nat) {e : Event}
    (he : (∃ p, e = .closed n p) ∨ ∃ p, e = .dropped n p) :
    openings ((l.forget n).note e).journal m = openings l.journal m := by
  obtain ⟨p, rfl⟩ | ⟨p, rfl⟩ := he
  · exact openings_snoc l.journal _ m
  · exact openings_snoc l.journal _ m

theorem endings_ending (l : Linker) (n m : Nat) {e : Event}
    (he : (∃ p, e = .closed n p) ∨ ∃ p, e = .dropped n p) :
    endings ((l.forget n).note e).journal m = endings l.journal m + (n == m).toNat := by
  obtain ⟨p, rfl⟩ | ⟨p, rfl⟩ := he
  · exact endings_snoc l.journal _ m
  · exact endings_snoc l.journal _ m

theorem handles_ending (l : Linker) (n m : Nat) (e : Event) :
    ((l.forget n).note e).handles m = if m = n then 0 else l.handles m :=
  handles_forget l n m

/-- A library without users ends. -/
theorem Sound.forget (h : l.Sound uses) {n : Nat} {e : Event} (hn : 0 < uses n)
    (hn' : uses' n = 0) (huses : ∀ m, m ≠ n → uses' m = uses m)
    (he : (∃ p, e = .closed n p) ∨ ∃ p, e = .dropped n p) :
    ((l.forget n).note e).Sound uses' where
  once := by
    intro m hm
    rw [openings_ending l n m he]
    exact h.once m hm
  never := by
    intro m hm
    rw [openings_ending l n m he]
    exact h.never m hm
  handles_eq := by
    intro m
    have hone := h.openings_le_one m
    -- The one open library of the number goes as its one end comes.
    have hheld := h.held n hn
    have hm := h.handles_eq m
    rw [openings_ending l n m he, endings_ending l n m he, handles_ending l n m e]
    by_cases heq : m = n
    · subst heq
      rw [if_pos rfl, beq_self_eq_true, Bool.toNat_true]
      omega
    · rw [if_neg heq, beq_false_of_ne (Ne.symm heq), Bool.toNat_false]
      exact hm
  users_eq := by
    intro o ho
    obtain ⟨ho, hne⟩ := List.mem_filter.mp ho
    rw [h.users_eq o ho, huses o.number (by simpa using hne)]
  used := by
    intro o ho
    exact h.used o (List.mem_filter.mp ho).1
  held := by
    intro m hm
    have hne : m ≠ n := by
      rintro rfl
      omega
    have hforget := handles_forget l n m
    rw [if_neg hne] at hforget
    rw [huses m hne] at hm
    have hheld := h.held m hm
    rw [← hforget] at hheld
    exact hheld
  timely := by
    refine wellTimed_snoc h.timely ?_
    obtain ⟨p, rfl⟩ | ⟨p, rfl⟩ := he
    · exact (h.stillOpen_iff n).mpr hn
    · exact (h.stillOpen_iff n).mpr hn
  kept := by
    intro m q hm
    rcases List.mem_append.mp hm with hm | hm
    · exact h.kept m q hm
    · obtain ⟨p, rfl⟩ | ⟨p, rfl⟩ := he
      · cases List.mem_singleton.mp hm
      · cases List.mem_singleton.mp hm

theorem Sound.share (h : l.Sound uses) {n : Nat} (hn : 0 < uses n)
    (huses : ∀ m, uses' m = uses m + just n m) : (l.share n).Sound uses' := by
  refine h.update (fun _ => rfl) ?_ hn ?_ ?_
  · intro o ho heq
    rw [huses, just_self, h.users_eq o ho, heq]
  · rw [huses, just_self]
    exact Nat.succ_pos _
  · intro m hm
    rw [huses, just_of_ne hm, Nat.add_zero]

/-- Nothing happens in native code when a user leaves, but that the library may be dropped. -/
theorem adds_unshare (l : Linker) (n : Nat) :
    Adds (fun e => ∃ path, e = .dropped n path) l.journal (l.unshare n).journal := by
  unfold unshare
  split
  · exact adds_refl _ _
  · split
    · exact adds_snoc ⟨_, rfl⟩
    · exact adds_refl _ _

/-- A user goes away. If it was the last, the library is dropped. -/
theorem Sound.unshare (h : l.Sound uses) {n : Nat}
    (huses : ∀ m, uses m = uses' m + just n m) :
    (l.unshare n).Sound uses' ∧
      AddsEnds noNumber (fun m => m = n ∧ uses' m = 0) l.journal (l.unshare n).journal := by
  have hn := huses n
  rw [just_self] at hn
  have hother : ∀ m, m ≠ n → uses' m = uses m := by
    intro m hm
    rw [huses m, just_of_ne hm, Nat.add_zero]
  obtain ⟨o, hfind, ho, hnumber, husers⟩ := h.find?_of_used (by omega : 0 < uses n)
  unfold Linker.unshare
  rw [hfind]
  dsimp only
  split
  · refine ⟨h.forget (by omega) (by omega) hother (Or.inr ⟨_, rfl⟩), ?_⟩
    exact adds_snoc ⟨rfl, by omega⟩
  · refine ⟨h.update (fun _ => rfl) ?_ (by omega) (by omega) hother, adds_refl _ _⟩
    intro x hx heq
    show x.users - 1 = uses' n
    rw [h.users_eq x hx, heq, hn, Nat.add_sub_cancel]

/-- The only user of a library closes it. -/
theorem Sound.close (h : l.Sound uses) {n : Nat} (hn : uses' n = 0)
    (huses : ∀ m, uses m = uses' m + just n m) :
    (l.close n).2.Sound uses' ∧ AddsEnds (· = n) noNumber l.journal (l.close n).2.journal := by
  have hone := huses n
  rw [just_self] at hone
  have hother : ∀ m, m ≠ n → uses' m = uses m := by
    intro m hm
    rw [huses m, just_of_ne hm, Nat.add_zero]
  obtain ⟨o, hfind, ho, hnumber, husers⟩ := h.find?_of_used (by omega : 0 < uses n)
  -- It has one user, so it is neither deferred nor dropped.
  have hclosed : (l.close n).2 = (l.forget n).note (.closed n o.path) := by
    unfold Linker.close
    rw [hfind]
    dsimp only
    rw [if_pos (by omega)]
    cases o.closeFault <;> rfl
  rw [hclosed]
  exact ⟨h.forget (by omega) hn hother (Or.inl ⟨_, rfl⟩), adds_snoc rfl⟩

end Linker

end AudioHost
