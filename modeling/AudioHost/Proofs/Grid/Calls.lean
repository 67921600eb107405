import AudioHost.Grid.Basic

/-!
Runs of calls on a grid and what they tell. A grid fills in bulk until a write is to be announced
at once, and in bulk the starts of written windows wait. Each call is described by what it does to
this, and by the notices that it gives.
-/

namespace AudioHost.Grid

/-! ## Runs of calls -/

/-- A call that may change a grid. -/
inductive Call where
  | setColumn (index : Nat) (values : List Single)
  | setCompletion (completion : Nat) (update : Bool)
  | setStartFrame (frame : Int)
  | setResolution (resolution : Nat)
  | setHeight (bins : Nat)
  | setMinimum (level : Single)
  | setMaximum (level : Single)
  | setUnit (unit : String)
  | setBinName (n : Nat) (name : String)
  | setBinNames (names : List String)
  | setBinValues (values : List Single)
  | setBinValueUnit (unit : String)
deriving DecidableEq, Repr

/-- The grid after a call, and what the call tells. -/
def call (g : Grid) : Call → Grid × List Notice
  | .setColumn index values => g.setColumn index values
  | .setCompletion completion update => g.setCompletion completion update
  | .setStartFrame frame => (g.setStartFrame frame, [])
  | .setResolution resolution => (g.setResolution resolution, [])
  | .setHeight bins => (g.setHeight bins, [])
  | .setMinimum level => (g.setMinimum level, [])
  | .setMaximum level => (g.setMaximum level, [])
  | .setUnit unit => (g.setUnit unit, [])
  | .setBinName n name => g.setBinName n name
  | .setBinNames names => g.setBinNames names
  | .setBinValues values => (g.setBinValues values, [])
  | .setBinValueUnit unit => (g.setBinValueUnit unit, [])

/-- The grid after a run of calls. -/
def after (g : Grid) (calls : List Call) : Grid := calls.foldl (fun g c => (g.call c).1) g

/-- What a run of calls tells, in order. -/
def told (g : Grid) : List Call → List Notice
  | [] => []
  | c :: calls => (g.call c).2 ++ (g.call c).1.told calls

@[simp] theorem after_cons (g : Grid) (c : Call) (calls : List Call) :
    g.after (c :: calls) = (g.call c).1.after calls := rfl

theorem after_append (g : Grid) (calls more : List Call) :
    g.after (calls ++ more) = (g.after calls).after more := List.foldl_append

theorem told_singleton (g : Grid) (c : Call) : g.told [c] = (g.call c).2 := List.append_nil _

theorem told_append (g : Grid) (calls more : List Call) :
    g.told (calls ++ more) = g.told calls ++ (g.after calls).told more := by
  induction calls generalizing g with
  | nil => rfl
  | cons c calls ih =>
    rw [List.cons_append, told, ih, told, List.append_assoc]
    rfl

/-- What every call keeps, a run of calls keeps. -/
theorem after_induction (p : Grid → Prop) {calls : List Call}
    (step : ∀ g, ∀ c ∈ calls, p g → p (g.call c).1) {g : Grid} (h : p g) : p (g.after calls) := by
  induction calls generalizing g with
  | nil => exact h
  | cons c calls ih =>
    exact ih (fun g d hd => step g d (List.mem_cons_of_mem c hd)) (step g c List.mem_cons_self h)

/-! ## Windows -/

/-- A notice tells that all frames of a window may have changed. -/
def Notice.Covers (start stop : Int) : Notice → Prop
  | .changed => True
  | .changedWithin low high => low ≤ start ∧ stop ≤ high
  | .completionChanged => False
  | .ready => False

/-- Some notice tells of the window of a column. -/
def Announced (index resolution : Nat) (notices : List Notice) : Prop :=
  ∃ n ∈ notices, n.Covers (index * resolution) ((index + 1) * resolution)

theorem announced_append {index resolution : Nat} {one two : List Notice} :
    Announced index resolution (one ++ two) ↔
      Announced index resolution one ∨ Announced index resolution two := by
  simp [Announced, or_and_right, exists_or]

theorem announced_changed {index resolution : Nat} {notices : List Notice}
    (h : .changed ∈ notices) : Announced index resolution notices :=
  ⟨.changed, h, trivial⟩

theorem window_stop (index resolution : Nat) :
    ((index : Int) + 1) * resolution = index * resolution + resolution := by
  rw [Int.add_mul, Int.one_mul]

theorem announced_changedWithin {index resolution : Nat} {low high : Int}
    (hlow : low ≤ index * resolution) (hhigh : (index : Int) * resolution ≤ high) :
    Announced index resolution [.changedWithin low (high + resolution)] := by
  refine ⟨_, List.mem_singleton_self _, hlow, ?_⟩
  rw [window_stop]
  omega

/-! ## What a write does -/

section Write

variable (g : Grid) (index : Nat) (values : List Single)

/-- The write moves the extents of the grid. -/
def movesExtents : Bool := (g.extents.widenAll values).moved

/-- A write changes the columns, the extents and the windows that wait, and nothing else. -/
theorem setColumn_fst : ∃ columns minimum maximum haveExtents touched,
    (g.setColumn index values).1 =
      { g with columns, minimum, maximum, haveExtents, touched } := by
  simp only [setColumn]
  split
  · exact ⟨_, _, _, _, g.touched, rfl⟩
  · split <;> exact ⟨_, _, _, _, _, rfl⟩

theorem columns_setColumn : (g.setColumn index values).1.columns = g.columns.set index values := by
  simp only [setColumn]
  split
  · rfl
  · split <;> rfl

@[simp] theorem setColumn_resolution :
    (g.setColumn index values).1.resolution = g.resolution := by
  obtain ⟨_, _, _, _, _, h⟩ := setColumn_fst g index values
  rw [h]

@[simp] theorem setColumn_completion :
    (g.setColumn index values).1.completion = g.completion := by
  obtain ⟨_, _, _, _, _, h⟩ := setColumn_fst g index values
  rw [h]

@[simp] theorem setColumn_notifyOnAdd :
    (g.setColumn index values).1.notifyOnAdd = g.notifyOnAdd := by
  obtain ⟨_, _, _, _, _, h⟩ := setColumn_fst g index values
  rw [h]

/-- A write that is announced at once gives one notice, which tells of its window. -/
theorem setColumn_announced_at_once (h : g.notifyOnAdd = true) :
    ∃ n, (g.setColumn index values).2 = [n] ∧ Announced index g.resolution [n] := by
  simp only [setColumn, h, if_true]
  refine ⟨_, rfl, ?_⟩
  split
  · exact announced_changed List.mem_cons_self
  · exact announced_changedWithin (Int.le_refl _) (Int.le_refl _)

/-- In bulk a write that moves the extents tells of everything, and then no window waits. -/
theorem setColumn_moving (h : g.notifyOnAdd = false) (hmoves : g.movesExtents values = true) :
    (g.setColumn index values).1.touched = none ∧ (g.setColumn index values).2 = [.changed] := by
  rw [movesExtents] at hmoves
  simp [setColumn, h, hmoves]

/-- In bulk the window of any other write waits. -/
theorem setColumn_waiting (h : g.notifyOnAdd = false) (hmoves : g.movesExtents values = false) :
    (g.setColumn index values).1.touched = touch (g.windowStart index) g.touched ∧
      (g.setColumn index values).2 = [] := by
  rw [movesExtents] at hmoves
  simp [setColumn, h, hmoves]

end Write

/-! ## What a report of progress does -/

/-- A report of what is known already does nothing. One of the end tells of everything, and from
then on every write is announced at once. One of progress announces the windows that wait, if it is
asked to and it is in bulk, or else just that there is progress. -/
theorem setCompletion_cases (g : Grid) (completion : Nat) (update : Bool) :
    (g.completion = min completion 100 ∧ g.setCompletion completion update = (g, [])) ∨
    (g.completion ≠ 100 ∧ 100 ≤ completion ∧ g.setCompletion completion update =
      ({ g with completion := 100, notifyOnAdd := true }, [.changed, .ready])) ∨
    (∃ low high, g.completion ≠ completion ∧ completion < 100 ∧ g.notifyOnAdd = false ∧
      update = true ∧ g.touched = some (low, high) ∧ g.setCompletion completion update =
        ({ g with completion, touched := none }, [.changedWithin low (high + g.resolution)])) ∨
    (g.completion ≠ completion ∧ completion < 100 ∧
      (g.notifyOnAdd = true ∨ update = false ∨ g.touched = none) ∧
      g.setCompletion completion update = ({ g with completion }, [.completionChanged])) := by
  -- In the order of the checks: known, the end, announced at once, not asked to, nothing waits.
  by_cases hknown : g.completion = min completion 100
  · exact Or.inl ⟨hknown, by simp [setCompletion, hknown]⟩
  by_cases hend : 100 ≤ completion
  · rw [Nat.min_eq_right hend] at hknown
    exact Or.inr (Or.inl ⟨hknown, hend, by simp [setCompletion, Nat.min_eq_right hend, hknown]⟩)
  have hmin : min completion 100 = completion := by omega
  have hne : completion ≠ 100 := by omega
  rw [hmin] at hknown
  refine Or.inr (Or.inr ?_)
  simp only [setCompletion, hmin, hknown, hne, if_false]
  by_cases hnotify : g.notifyOnAdd = true
  · exact Or.inr ⟨hknown, by omega, Or.inl hnotify, by simp [hnotify]⟩
  rw [Bool.not_eq_true] at hnotify
  rcases update with _ | _
  · exact Or.inr ⟨hknown, by omega, Or.inr (Or.inl rfl), by simp [hnotify]⟩
  rcases htouched : g.touched with _ | ⟨low, high⟩
  · exact Or.inr ⟨hknown, by omega, Or.inr (Or.inr rfl), by simp [hnotify]⟩
  · exact Or.inl ⟨low, high, hknown, by omega, hnotify, rfl, rfl, by simp [hnotify]⟩

/-- A report changes the completion, the windows that wait and whether writes are announced at once,
and nothing else. -/
theorem setCompletion_fst (g : Grid) (completion : Nat) (update : Bool) :
    ∃ reached notifyOnAdd touched, (g.setCompletion completion update).1 =
      { g with completion := reached, notifyOnAdd, touched } := by
  rcases setCompletion_cases g completion update with
    ⟨_, h⟩ | ⟨_, _, h⟩ | ⟨_, _, _, _, _, _, _, h⟩ | ⟨_, _, _, h⟩ <;> rw [h]
  · exact ⟨g.completion, g.notifyOnAdd, g.touched, rfl⟩
  all_goals exact ⟨_, _, _, rfl⟩

/-! ## What the other calls do -/

/-- A call neither writes a column nor reports progress. -/
def Call.isSetting : Call → Bool
  | .setColumn .. | .setCompletion .. => false
  | _ => true

/-- The call sets the frames per column. -/
def Call.setsResolution : Call → Bool
  | .setResolution _ => true
  | _ => false

theorem Call.kinds (c : Call) :
    (∃ index values, c = .setColumn index values) ∨
      (∃ completion update, c = .setCompletion completion update) ∨ c.isSetting = true := by
  cases c with
  | setColumn index values => exact Or.inl ⟨index, values, rfl⟩
  | setCompletion completion update => exact Or.inr (Or.inl ⟨completion, update, rfl⟩)
  | _ => exact Or.inr (Or.inr rfl)

theorem setting_keeps (g : Grid) {c : Call} (h : c.isSetting = true) :
    (g.call c).1.notifyOnAdd = g.notifyOnAdd ∧ (g.call c).1.touched = g.touched ∧
      (g.call c).1.completion = g.completion := by
  cases c with
  | setColumn | setCompletion => cases h
  | _ => simp [call, setStartFrame, setResolution, setHeight, setMinimum, setMaximum, setUnit,
      setBinName, setBinNames, setBinValues, setBinValueUnit]

end AudioHost.Grid
