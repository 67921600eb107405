import Mathlib.Data.List.Forall2
import AudioHost.Proofs.Discovery.Listing
import AudioHost.Proofs.Files.Order

/-!
Where files are listed, in any file system with links. Of the paths to one real file the first is
listed, in the order of the directories and then of the names, and the others are not.
-/

namespace AudioHost

namespace Path

/-- The name of a path comes before the name of another. -/
def NameBefore (p q : Path) : Prop :=
  ∃ a b, p.fileName? = some a ∧ q.fileName? = some b ∧ String.ofList a < String.ofList b

theorem partsLe_append (ps : List Part) {as bs : List Part} :
    partsLe (ps ++ as) (ps ++ bs) = partsLe as bs := by
  induction ps with
  | nil => rfl
  | cons p ps ih => simpa [partsLe] using ih

/-- Names below one directory are in the order of the names. -/
theorem nameBefore_of_le {d : Path} {a b : Name} (ha : ProperName a) (hb : ProperName b)
    (hle : (d.join (String.ofList a)).le (d.join (String.ofList b)) = true) (hne : a ≠ b) :
    NameBefore (d.join (String.ofList a)) (d.join (String.ofList b)) := by
  rw [le, parts_join d ha, parts_join d hb, partsLe_append] at hle
  have hnames : String.ofList a ≤ String.ofList b := by simpa [partsLe, hne, Part.le] using hle
  have hless : String.ofList a < String.ofList b :=
    String.not_le.mp fun hle => hne (String.ofList_injective (String.le_antisymm hnames hle))
  exact ⟨a, b, fileName?_join d ha, fileName?_join d hb, hless⟩

end Path

namespace Candidates

variable {fs : LinkedSystem} {accepts : Name → Bool} {d p q : Path}
  {ps qs seen directories : List Path}

/-! ## The files of a directory -/

/-- A file lies directly in a directory that can be read, and its name is accepted. -/
def MatchingFile (fs : LinkedSystem) (accepts : Name → Bool) (directory p : Path) : Prop :=
  ∃ names name, fs.names? directory = some names ∧ name ∈ names ∧ accepts name = true ∧
    p = directory.join (String.ofList name) ∧ fs.isFile p = true

theorem mem_matching (hfs : fs.Coherent) :
    p ∈ matching fs accepts d ↔ MatchingFile fs accepts d p := by
  unfold matching found MatchingFile
  rw [List.mem_mergeSort]
  rcases hnames : fs.names? d with _ | names
  · simp
  · simp only [Option.getD_some, List.mem_filter, List.mem_map, Bool.and_eq_true,
      Option.some.injEq]
    constructor
    · rintro ⟨⟨name, ⟨hname, _, haccepts⟩, rfl⟩, hfile⟩
      exact ⟨names, name, rfl, hname, haccepts, rfl, hfile⟩
    · rintro ⟨_, name, rfl, hname, haccepts, rfl, hfile⟩
      exact ⟨⟨name, ⟨hname, hfs.plain hnames hname hfile, haccepts⟩, rfl⟩, hfile⟩

/-- Of two files in a directory the one that comes before the other has the earlier name. -/
theorem MatchingFile.nameBefore (hfs : fs.Coherent) (hp : MatchingFile fs accepts d p)
    (hq : MatchingFile fs accepts d q) (hle : p.le q = true) (hne : p ≠ q) :
    p.NameBefore q := by
  obtain ⟨names, a, hnames, ha, _, rfl, _⟩ := hp
  obtain ⟨_, b, hnames', hb, _, rfl, _⟩ := hq
  refine Path.nameBefore_of_le (hfs.proper hnames ha) (hfs.proper hnames' hb) hle ?_
  rintro rfl
  exact hne rfl

/-! ## Where a file is reached first -/

/-- A path is the first to a real file: no directory before has a matching file which is the same,
and in its directory no earlier name is of one. -/
def ReachedFirst (fs : LinkedSystem) (accepts : Name → Bool) (directories : List Path)
    (p q : Path) : Prop :=
  ∃ before d after, directories = before ++ d :: after ∧
    MatchingFile fs accepts d q ∧ fs.sameFile p q = true ∧
    (∀ d' ∈ before, ∀ r, MatchingFile fs accepts d' r → fs.sameFile p r = false) ∧
    ∀ r, MatchingFile fs accepts d r → fs.sameFile p r = true → r = q ∨ q.NameBefore r

theorem reachedFirst_of_find? (hfs : fs.Coherent)
    (h : (directories.flatMap (matching fs accepts)).find? (fs.sameFile p) = some q) :
    ReachedFirst fs accepts directories p q := by
  rw [List.find?_flatMap, List.findSome?_eq_some_iff] at h
  obtain ⟨before, d, after, hsplit, hfirst, hbefore⟩ := h
  obtain ⟨hsame, front, back, hmatching, hfront⟩ := List.find?_eq_some_iff_append.mp hfirst
  have hq : MatchingFile fs accepts d q := (mem_matching hfs).mp (List.mem_of_find?_eq_some hfirst)
  refine ⟨before, d, after, hsplit, hq, hsame, fun d' hd' r hr => ?_, fun r hr hsame' => ?_⟩
  · have hnone := List.find?_eq_none.mp (hbefore d' hd') r ((mem_matching hfs).mpr hr)
    exact Bool.eq_false_iff.mpr hnone
  · have hmem := (mem_matching hfs).mpr hr
    have hsorted : (matching fs accepts d).Pairwise fun p q => p.le q = true :=
      Path.pairwise_mergeSort _
    rw [hmatching] at hmem hsorted
    -- The paths in front are of other files, and those behind have later names.
    rcases List.mem_append.mp hmem with hin | hin
    · exact absurd hsame' (by simpa using hfront r hin)
    · rcases List.mem_cons.mp hin with rfl | hin
      · exact Or.inl rfl
      · by_cases heq : r = q
        · exact Or.inl heq
        · have hle := (List.pairwise_cons.mp (List.pairwise_append.mp hsorted).2.1).1 r hin
          exact Or.inr (hq.nameBefore hfs hr hle (Ne.symm heq))

theorem seen_congr (h : fs.sameFile p q = true) (seen : List Path) :
    seen.any (fs.target p).same = seen.any (fs.target q).same :=
  congrArg seen.any (funext (Path.same_congr h))

/-- Of the paths to one real file the first is reached, unless the file was seen before. -/
theorem filter_firstReached (p : Path) (seen ps : List Path) :
    (firstReached fs seen ps).filter (fs.sameFile p) =
      if seen.any (fs.target p).same then [] else (ps.find? (fs.sameFile p)).toList := by
  induction ps generalizing seen with
  | nil => simp [firstReached]
  | cons q ps ih =>
    have hnow : (fs.target q :: seen).any (fs.target p).same =
        (fs.sameFile p q || seen.any (fs.target p).same) := List.any_cons
    by_cases hsame : fs.sameFile p q = true
    · rw [seen_congr hsame seen, List.find?_cons_of_pos hsame]
      cases hq : seen.any (fs.target q).same with
      | true =>
        rw [firstReached_of_seen hq, ih, seen_congr hsame seen, hq]
        rfl
      | false =>
        -- The rest is filtered with this file among those that were seen.
        rw [firstReached_of_new hq, List.filter_cons_of_pos hsame, ih, hnow, hsame]
        rfl
    · rw [List.find?_cons_of_neg hsame]
      cases hq : seen.any (fs.target q).same with
      | true => rw [firstReached_of_seen hq, ih]
      | false =>
        rw [firstReached_of_new hq, List.filter_cons_of_neg hsame, ih, hnow,
          Bool.eq_false_iff.mpr hsame, Bool.false_or]

/-! ## Going on -/

theorem firstReached_append (fs : LinkedSystem) (seen ps qs : List Path) :
    ∃ seen', firstReached fs seen (ps ++ qs) = firstReached fs seen ps ++ firstReached fs seen' qs ∧
      ∀ q, seen.any (fs.target q).same = true ∨ (∃ p ∈ ps, fs.sameFile q p = true) →
        seen'.any (fs.target q).same = true := by
  induction ps generalizing seen with
  | nil =>
    refine ⟨seen, rfl, fun q h => ?_⟩
    obtain hbefore | ⟨p, hp, _⟩ := h
    · exact hbefore
    · cases hp
  | cons p ps ih =>
    rw [List.cons_append]
    cases hp : seen.any (fs.target p).same with
    | true =>
      obtain ⟨seen', happend, hseen⟩ := ih seen
      rw [firstReached_of_seen hp, firstReached_of_seen hp]
      refine ⟨seen', happend, fun q h => hseen q ?_⟩
      obtain hbefore | ⟨r, hr, hsame⟩ := h
      · exact Or.inl hbefore
      · rcases List.mem_cons.mp hr with rfl | hr
        · exact Or.inl (seen_congr hsame seen ▸ hp)
        · exact Or.inr ⟨r, hr, hsame⟩
    | false =>
      obtain ⟨seen', happend, hseen⟩ := ih (fs.target p :: seen)
      rw [firstReached_of_new hp, firstReached_of_new hp, happend]
      refine ⟨seen', rfl, fun q h => hseen q ?_⟩
      rw [List.any_cons, Bool.or_eq_true]
      obtain hbefore | ⟨r, hr, hsame⟩ := h
      · exact Or.inl (Or.inr hbefore)
      · rcases List.mem_cons.mp hr with rfl | hr
        · exact Or.inl (Or.inl hsame)
        · exact Or.inr ⟨r, hr, hsame⟩

theorem firstReached_eq_nil (h : ∀ p ∈ ps, seen.any (fs.target p).same = true) :
    firstReached fs seen ps = [] := by
  induction ps with
  | nil => rfl
  | cons p ps ih =>
    obtain ⟨hp, hps⟩ := List.forall_mem_cons.mp h
    rw [firstReached_of_seen hp, ih hps]

/-- What is reached first falls into parts, one for each directory. -/
theorem firstReached_flatMap (fs : LinkedSystem) (f : Path → List Path) (seen ds : List Path) :
    ∃ parts, firstReached fs seen (ds.flatMap f) = parts.flatten ∧
      List.Forall₂ (fun d part => ∃ seen', part = firstReached fs seen' (f d)) ds parts := by
  induction ds generalizing seen with
  | nil => exact ⟨[], rfl, .nil⟩
  | cons d ds ih =>
    obtain ⟨seen', happend, _⟩ := firstReached_append fs seen (f d) (ds.flatMap f)
    obtain ⟨parts, hparts, hall⟩ := ih seen'
    refine ⟨firstReached fs seen (f d) :: parts, ?_, .cons ⟨seen, rfl⟩ hall⟩
    rw [List.flatMap_cons, happend, hparts, List.flatten_cons]

/-- What is reached in one directory is in the order of the names. -/
theorem pairwise_nameBefore (hfs : fs.Coherent) (seen : List Path) :
    (firstReached fs seen (matching fs accepts d)).Pairwise Path.NameBefore := by
  -- The paths are sorted, and two of them are not one since they lead to different files.
  have hsub := firstReached_sublist fs seen (matching fs accepts d)
  have hsorted := (Path.pairwise_mergeSort (found fs accepts d)).sublist hsub
  refine (hsorted.and (pairwise_firstReached ..)).imp_of_mem fun {p q} hp hq ⟨hle, hother⟩ => ?_
  refine ((mem_matching hfs).mp (hsub.mem hp)).nameBefore hfs
    ((mem_matching hfs).mp (hsub.mem hq)) hle ?_
  rintro rfl
  rw [fs.sameFile_refl] at hother
  cases hother

/-! ## The law -/

/-- Whatever links there are: what is listed are files with accepted names, no two of them the same
real file. Of each such file in a directory there is one listed path, and it is the first one in the
order of the directories and then of the names. The paths are in this order themselves, and more
directories whose files are all reached already change nothing. -/
theorem each_file_is_listed_where_it_is_reached_first (fs : LinkedSystem) (hfs : fs.Coherent)
    (accepts : Name → Bool) (directories : List Path) :
    let listed := list fs directories accepts
    (∀ p ∈ listed, ∃ d ∈ directories, MatchingFile fs accepts d p) ∧
    (listed.Pairwise fun p q => fs.sameFile p q = false) ∧
    (∀ d ∈ directories, ∀ p, MatchingFile fs accepts d p →
      ∃ q, listed.filter (fs.sameFile p) = [q] ∧ ReachedFirst fs accepts directories p q) ∧
    (∃ parts, listed = parts.flatten ∧ List.Forall₂ (fun d part =>
      (∀ p ∈ part, MatchingFile fs accepts d p) ∧ part.Pairwise Path.NameBefore)
      directories parts) ∧
    ∀ more, (∀ d ∈ more, ∀ p, MatchingFile fs accepts d p →
        ∃ d' ∈ directories, ∃ q, MatchingFile fs accepts d' q ∧ fs.sameFile p q = true) →
      list fs (directories ++ more) accepts = listed := by
  intro listed
  have hapart : listed.Pairwise fun p q => fs.sameFile p q = false := pairwise_firstReached ..
  refine ⟨fun p hp => ?_, hapart, fun d hd p hp => ?_, ?_, fun more hmore => ?_⟩
  · obtain ⟨d, hd, hmem⟩ := List.mem_flatMap.mp ((firstReached_sublist fs _ _).mem hp)
    exact ⟨d, hd, (mem_matching hfs).mp hmem⟩
  · have hmem : p ∈ directories.flatMap (matching fs accepts) :=
      List.mem_flatMap.mpr ⟨d, hd, (mem_matching hfs).mpr hp⟩
    have hsome : ((directories.flatMap (matching fs accepts)).find? (fs.sameFile p)).isSome :=
      List.find?_isSome.mpr ⟨p, hmem, fs.sameFile_refl p⟩
    obtain ⟨q, hq⟩ := Option.isSome_iff_exists.mp hsome
    refine ⟨q, ?_, reachedFirst_of_find? hfs hq⟩
    exact (filter_firstReached p [] _).trans (congrArg Option.toList hq)
  · obtain ⟨parts, hparts, hall⟩ := firstReached_flatMap fs (matching fs accepts) [] directories
    refine ⟨parts, hparts, hall.imp ?_⟩
    rintro d _ ⟨seen, rfl⟩
    refine ⟨fun p hp => (mem_matching hfs).mp ?_, pairwise_nameBefore hfs seen⟩
    exact (firstReached_sublist ..).mem hp
  · obtain ⟨seen, happend, hseen⟩ := firstReached_append fs []
      (directories.flatMap (matching fs accepts)) (more.flatMap (matching fs accepts))
    have hnone : firstReached fs seen (more.flatMap (matching fs accepts)) = [] := by
      refine firstReached_eq_nil fun p hp => hseen p (Or.inr ?_)
      obtain ⟨d, hd, hp⟩ := List.mem_flatMap.mp hp
      obtain ⟨d', hd', q, hq, hsame⟩ := hmore d hd p ((mem_matching hfs).mp hp)
      exact ⟨q, List.mem_flatMap.mpr ⟨d', hd', (mem_matching hfs).mpr hq⟩, hsame⟩
    rw [list, List.flatMap_append, happend, hnone, List.append_nil]
    rfl

/-- A directory `d` with a library, a link to it and links that lead nowhere and in a circle; a link
`e` to the directory; and a directory `f` with another library and one more link to the first. -/
def crossed : FileTree :=
  let names (p : String) : List Name := Text.splitAll '/' p.toList
  ⟨[(names "d", .directory), (names "d/a.so", .link ⟨"b.so"⟩),
    (names "d/b.so", .file (.bytes []) false), (names "d/o.so", .link ⟨"o.so"⟩),
    (names "d/x.so", .link ⟨"gone"⟩), (names "e", .link ⟨"d"⟩), (names "f", .directory),
    (names "f/b.so", .link ⟨"../d/b.so"⟩), (names "f/c.so", .file (.bytes []) false)]⟩

/-- Two libraries are listed, the first one by the name of the link to it. -/
theorem two_files_are_listed_of_six_ways_to_them :
    let accepts : Name → Bool := fun name => name.drop 1 == ".so".toList
    let directories : List Path := [⟨"d"⟩, ⟨"gone"⟩, ⟨"e"⟩, ⟨"f"⟩, ⟨"d"⟩]
    crossed.linked.Coherent ∧
      list crossed.linked directories accepts = [⟨"d/a.so"⟩, ⟨"f/c.so"⟩] ∧
      ReachedFirst crossed.linked accepts directories ⟨"e/b.so"⟩ ⟨"d/a.so"⟩ ∧
      list crossed.linked (directories ++ [⟨"e"⟩, ⟨"d"⟩]) accepts =
        [⟨"d/a.so"⟩, ⟨"f/c.so"⟩] := by
  intro accepts directories
  have hfs : crossed.linked.Coherent := FileTree.coherent (by decide +kernel)
  have hlisted : list crossed.linked directories accepts = [⟨"d/a.so"⟩, ⟨"f/c.so"⟩] :=
    (list_of_sorted (by decide +kernel)).trans (by decide +kernel)
  obtain ⟨_, _, hfirst, _, hmore⟩ :=
    each_file_is_listed_where_it_is_reached_first crossed.linked hfs accepts directories
  refine ⟨hfs, hlisted, ?_, ?_⟩
  · have hfile : MatchingFile crossed.linked accepts ⟨"e"⟩ ⟨"e/b.so"⟩ :=
      ⟨_, "b.so".toList, rfl, by decide +kernel, by decide +kernel, by decide +kernel,
        by decide +kernel⟩
    obtain ⟨q, hq, hreached⟩ := hfirst ⟨"e"⟩ (by decide) ⟨"e/b.so"⟩ hfile
    have hlink : (list crossed.linked directories accepts).filter
        (crossed.linked.sameFile ⟨"e/b.so"⟩) = [⟨"d/a.so"⟩] := by
      rw [hlisted]
      decide +kernel
    cases hq.symm.trans hlink
    exact hreached
  · have hrepeated : ∀ d ∈ [(⟨"e"⟩ : Path), ⟨"d"⟩], d ∈ directories := by decide
    refine (hmore _ fun d hd p hp => ?_).trans hlisted
    exact ⟨d, hrepeated d hd, p, hp, LinkedSystem.sameFile_refl _ p⟩

end Candidates

end AudioHost
