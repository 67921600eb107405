import AudioHost.Files.Tree
import AudioHost.Proofs.Files.Names

/-!
Where paths lead. Two paths with the same parts differ only in pieces that stay in a directory, so
they lead to one place if both of them lead anywhere. And a path that goes on below a directory goes
on from where the directory lies.
-/

namespace AudioHost

namespace FileTree

variable {t : FileTree} {ss ss' : List Step} {p q : Path} {place place' : Place}

/-! ## Steps that stay -/

/-- Steps of which some that stay in a directory are left out. -/
inductive Trims : List Step → List Step → Prop
  | done : Trims [] []
  | keep (step : Step) {ss ss' : List Step} (h : Trims ss ss') : Trims (step :: ss) (step :: ss')
  | leave {ss ss' : List Step} (h : Trims ss ss') : Trims (.stay :: ss) ss'

theorem Trims.after (h : Trims ss ss') (front : List Step) :
    Trims (front ++ ss) (front ++ ss') := by
  induction front with
  | nil => exact h
  | cons step front ih => exact .keep step ih

/-- The steps that do not stay. -/
def moves (ss : List Step) : List Step := ss.filter (· ≠ .stay)

theorem trims_moves (ss : List Step) : Trims ss (moves ss) := by
  induction ss with
  | nil => exact .done
  | cons step ss ih =>
    cases step with
    | stay => exact .leave ih
    | up => exact .keep _ ih
    | down name => exact .keep _ ih

/-- What one step comes to, whatever steps are behind it: it fails, it leads to another place, or it
comes to a link. -/
theorem followSteps_cons (t : FileTree) (onLink : Place → List Step → Except LookupError Place)
    (here : Place) (step : Step) :
    (∃ e, ∀ rest, t.followSteps onLink here (step :: rest) = .error e) ∨
    (∃ there, ∀ rest, t.followSteps onLink here (step :: rest) =
      t.followSteps onLink there rest) ∨
    ∃ target, ∀ rest, t.followSteps onLink here (step :: rest) =
      onLink (origin target here) (steps target ++ rest) := by
  by_cases hdirectory : t.entryAt here = some .directory
  · cases step with
    | stay => exact .inr (.inl ⟨here, fun rest => by simp [followSteps, hdirectory]⟩)
    | up => exact .inr (.inl ⟨above here, fun rest => by simp [followSteps, hdirectory]⟩)
    | down name =>
      rcases hbelow : below here name with _ | there
      · exact .inl ⟨.notFound, fun rest => by simp [followSteps, hdirectory, hbelow]⟩
      · rcases hentry : t.entryAt there with _ | entry
        · exact .inl ⟨.notFound, fun rest => by simp [followSteps, hdirectory, hbelow, hentry]⟩
        · cases entry with
          | link target =>
            exact .inr (.inr ⟨target, fun rest => by
              simp [followSteps, hdirectory, hbelow, hentry]⟩)
          | _ =>
            exact .inr (.inl ⟨there, fun rest => by
              simp [followSteps, hdirectory, hbelow, hentry]⟩)
  · exact .inl ⟨.notDirectory, fun rest => by simp [followSteps, hdirectory]⟩

theorem followSteps_trims {onLink : Place → List Step → Except LookupError Place}
    (hlink : ∀ {ss ss' : List Step}, Trims ss ss' → ∀ here,
      onLink here ss = .ok place → onLink here ss' = .ok place)
    (h : Trims ss ss') (here : Place) (hfound : t.followSteps onLink here ss = .ok place) :
    t.followSteps onLink here ss' = .ok place := by
  induction h generalizing here with
  | done => exact hfound
  | keep step hrest ih =>
    obtain ⟨e, herror⟩ | ⟨there, hthere⟩ | ⟨target, htarget⟩ :=
      t.followSteps_cons onLink here step
    · cases (herror _).symm.trans hfound
    · rw [hthere] at hfound ⊢
      exact ih there hfound
    · rw [htarget] at hfound ⊢
      exact hlink (hrest.after (steps target)) _ hfound
  | leave hrest ih =>
    unfold followSteps at hfound
    split at hfound
    · cases hfound
    · exact ih _ hfound

/-- Steps that stay can be left out of a way that leads somewhere. -/
theorem follow_trims (h : Trims ss ss') (links : Nat) (here : Place)
    (hfound : t.follow links here ss = .ok place) : t.follow links here ss' = .ok place := by
  -- Each link that is followed leaves one less.
  induction links generalizing ss ss' here with
  | zero => exact followSteps_trims (fun _ _ hlink => by cases hlink) h here hfound
  | succ links ih => exact followSteps_trims (fun hrest here => ih hrest here) h here hfound

/-! ## Parts -/

/-- The step that a part stands for; those in front of the first piece are none. -/
def stepOfPart : Path.Part → Option Step
  | .root => none
  | .here => none
  | .up => some .up
  | .name cs => some (.down cs)

theorem bind_partOf (piece : List Char) :
    (Path.partOf piece).bind stepOfPart = (stepOf piece).filter (· ≠ .stay) := by
  unfold Path.partOf stepOf
  by_cases hempty : piece = []
  · simp [hempty]
  by_cases hhere : piece = ['.']
  · simp [hhere, Option.filter]
  by_cases hup : piece = ['.', '.']
  · simp [hup, stepOfPart, Option.filter]
  · simp [hempty, hhere, hup, stepOfPart, Option.filter]

/-- The step for a slash at the end stays. -/
theorem moves_steps (p : Path) :
    moves (steps p) = moves ((Text.splitAll '/' p.chars).filterMap stepOf) := by
  unfold steps moves
  have htail : (if p.chars.getLast? = some '/' then [Step.stay] else []).filter (· ≠ .stay) =
      [] := by
    split <;> rfl
  rw [List.filter_append, htail, List.append_nil]

/-- The parts of a path tell which of its steps do not stay. -/
theorem filterMap_stepOfPart (p : Path) : p.parts.filterMap stepOfPart = moves (steps p) := by
  have hlead : (if p.isAbsolute then [Path.Part.root]
      else if (Text.splitAll '/' p.chars).head? = some ['.'] then [.here] else []).filterMap
        stepOfPart = [] := by
    split
    · rfl
    · split <;> rfl
  rw [moves_steps, Path.parts, moves]
  rw [List.filterMap_append, hlead, List.nil_append, List.filterMap_filterMap,
    List.filter_filterMap]
  exact congrArg (List.filterMap · _) (funext bind_partOf)

theorem root_mem_parts (p : Path) : .root ∈ p.parts ↔ p.isAbsolute = true := by
  have hpieces : .root ∉ (Text.splitAll '/' p.chars).filterMap Path.partOf := by
    intro hmem
    obtain ⟨piece, _, hpiece⟩ := List.mem_filterMap.mp hmem
    unfold Path.partOf at hpiece
    split at hpiece
    · cases hpiece
    · split at hpiece <;> cases hpiece
  unfold Path.parts
  dsimp only
  rw [List.mem_append, or_iff_left hpieces]
  split
  · next habsolute => simp [habsolute]
  · next hrelative => split <;> simp [hrelative]

theorem isAbsolute_of_same (h : p.same q = true) : p.isAbsolute = q.isAbsolute := by
  have hparts : p.parts = q.parts := by simpa [Path.same] using h
  rw [Bool.eq_iff_iff, ← root_mem_parts, ← root_mem_parts, hparts]

/-! ## Same paths -/

theorem find_eq_ok (hfound : t.find p = .ok place) :
    t.follow linkLimit (origin p .top) (moves (steps p)) = .ok place := by
  unfold find at hfound
  split at hfound
  · cases hfound
  · exact follow_trims (trims_moves _) _ _ hfound

/-- Paths that differ only in steps that stay lead to one place, if both of them lead anywhere. -/
theorem find_eq_of_moves (habsolute : p.isAbsolute = q.isAbsolute)
    (hmoves : moves (steps p) = moves (steps q)) (hp : t.find p = .ok place)
    (hq : t.find q = .ok place') : place = place' := by
  have hway := find_eq_ok hp
  rw [origin, habsolute, hmoves] at hway
  exact Except.ok.inj (hway.symm.trans (find_eq_ok hq))

theorem moves_of_same (h : p.same q = true) : moves (steps p) = moves (steps q) := by
  have hparts : p.parts = q.parts := by simpa [Path.same] using h
  rw [← filterMap_stepOfPart, hparts, filterMap_stepOfPart]

/-- Same paths lead to one place, if both of them lead anywhere. A slash at the end of one of them
may keep it from that. -/
theorem find_eq_of_same (h : p.same q = true) (hp : t.find p = .ok place)
    (hq : t.find q = .ok place') : place = place' :=
  find_eq_of_moves (isAbsolute_of_same h) (moves_of_same h) hp hq

/-! ## Going on -/

theorem followSteps_append {onLink : Place → List Step → Except LookupError Place}
    (hlink : ∀ here ss, onLink here ss = .ok place → onLink here (ss ++ ss') = .ok place')
    (hrest : t.followSteps onLink place ss' = .ok place') (ss : List Step) (here : Place)
    (hfound : t.followSteps onLink here ss = .ok place) :
    t.followSteps onLink here (ss ++ ss') = .ok place' := by
  induction ss generalizing here with
  | nil =>
    cases hfound
    exact hrest
  | cons step ss ih =>
    rw [List.cons_append]
    obtain ⟨e, herror⟩ | ⟨there, hthere⟩ | ⟨target, htarget⟩ :=
      t.followSteps_cons onLink here step
    · cases (herror _).symm.trans hfound
    · rw [hthere] at hfound ⊢
      exact ih there hfound
    · -- What comes behind the steps comes behind those of the link, too.
      rw [htarget] at hfound
      rw [htarget, ← List.append_assoc]
      exact hlink _ _ hfound

/-- Steps that need no links go on from where others have led. -/
theorem follow_append (hrest : ∀ links, t.follow links place ss' = .ok place') (links : Nat)
    (ss : List Step) (here : Place) (hfound : t.follow links here ss = .ok place) :
    t.follow links here (ss ++ ss') = .ok place' := by
  induction links generalizing ss here with
  | zero => exact followSteps_append (fun _ _ hlink => by cases hlink) (hrest 0) ss here hfound
  | succ links ih =>
    exact followSteps_append (fun here ss => ih ss here) (hrest (links + 1)) ss here hfound

/-- One step down to an entry that is no link. -/
theorem follow_down {here there : Place} {name : Name} {entry : Entry}
    (hdirectory : t.entryAt here = some .directory) (hbelow : below here name = some there)
    (hentry : t.entryAt there = some entry) (hlink : ∀ target, entry ≠ .link target)
    (links : Nat) : t.follow links here [.down name] = .ok there := by
  have hstep (onLink) : t.followSteps onLink here [.down name] = .ok there := by
    cases entry with
    | link target => exact absurd rfl (hlink target)
    | _ => simp [followSteps, hdirectory, hbelow, hentry]
  cases links with
  | zero => exact hstep _
  | succ links => exact hstep _

/-- An entry of a directory that is no link lies below it. -/
theorem find_join {d : Path} {name : Name} {entry : Entry} (hname : Path.ProperName name)
    (hd : t.find d = .ok place) (hdirectory : t.entryAt place = some .directory)
    (hentry : t.entryIn? d name = some entry) (hlink : ∀ target, entry ≠ .link target)
    (hp : t.find (d.join (String.ofList name)) = .ok place') :
    t.entryAt place' = some entry := by
  rw [entryIn?, hd, Option.bind_eq_some_iff] at hentry
  obtain ⟨there, hbelow, hthere⟩ := hentry
  have hparts := Path.parts_join d hname
  have hmoves : moves (steps (d.join (String.ofList name))) = moves (steps d) ++ [.down name] := by
    rw [← filterMap_stepOfPart, ← filterMap_stepOfPart, hparts, List.filterMap_append]
    rfl
  have habsolute : (d.join (String.ofList name)).isAbsolute = d.isAbsolute := by
    rw [Bool.eq_iff_iff, ← root_mem_parts, ← root_mem_parts, hparts]
    simp
  -- The way to the entry is the way to the directory and one step.
  have hway := find_eq_ok hp
  rw [hmoves, origin, habsolute] at hway
  have hthere' := follow_append (follow_down hdirectory hbelow hthere hlink) linkLimit _ _
    (find_eq_ok hd)
  cases hway.symm.trans hthere'
  exact hthere

/-! ## Files -/

theorem find_of_isFile (h : t.isFile p = true) :
    ∃ place content executable, t.find p = .ok place ∧
      t.entryAt place = some (.file content executable) := by
  unfold isFile lookUp? at h
  rcases hfound : t.find p with e | place
  · rw [hfound] at h
    cases h
  · rw [hfound] at h
    dsimp only at h
    split at h
    · next content executable hentry => exact ⟨place, content, executable, rfl, hentry⟩
    · cases h

end FileTree

end AudioHost
