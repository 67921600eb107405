import AudioHost.Proofs.Files.Names
import AudioHost.Proofs.Files.Order
import AudioHost.Rack.Basic

/-!
Where the file of a library is found, in any file system. The path itself comes first, then its name
in the directories that are searched, one after the other, and only then its stem in them.
-/

namespace AudioHost

namespace Locate

variable {fs : FileSystem} {searchPath ds : List Path} {library : String} {name stem : Name}
  {p q d : Path}

/-! ## Files of a stem -/

/-- A file lies directly in a directory that can be read, and has a stem. -/
def HasStem (fs : FileSystem) (directory : Path) (stem : Name) (p : Path) : Prop :=
  ∃ names name, fs.names? directory = some names ∧ name ∈ names ∧
    p = directory.join (String.ofList name) ∧ fs.isFile p = true ∧ p.fileStem? = some stem

theorem mem_files :
    p ∈ ((((fs.names? d).getD []).map fun name => d.join (String.ofList name)).filter
      fun p => fs.isFile p && p.fileStem? == some stem) ↔ HasStem fs d stem p := by
  unfold HasStem
  rcases hnames : fs.names? d with _ | names
  · simp
  · simp only [Option.getD_some, List.mem_filter, List.mem_map, Bool.and_eq_true, beq_iff_eq,
      Option.some.injEq]
    constructor
    · rintro ⟨⟨name, hname, rfl⟩, hfile, hstem⟩
      exact ⟨names, name, rfl, hname, rfl, hfile, hstem⟩
    · rintro ⟨_, name, rfl, hname, rfl, hfile, hstem⟩
      exact ⟨⟨name, hname, rfl⟩, hfile, hstem⟩

/-- What is not larger than any name in a directory is not larger than a file of a stem there. -/
theorem le_of_hasStem {names : List Name} (hnames : fs.names? d = some names)
    (hleast : ∀ name ∈ names, p.le (d.join (String.ofList name)) = true) :
    ∀ q, HasStem fs d stem q → p.le q = true := by
  rintro q ⟨names', name, hnames', hname, rfl, _⟩
  rw [hnames, Option.some.injEq] at hnames'
  subst hnames'
  exact hleast name hname

theorem head?_withStem_some (h : (withStem fs stem d).head? = some p) :
    HasStem fs d stem p ∧ ∀ q, HasStem fs d stem q → p.le q = true := by
  obtain ⟨hmem, hleast⟩ := Path.head?_mergeSort h
  exact ⟨mem_files.mp hmem, fun q hq => hleast q (mem_files.mpr hq)⟩

theorem head?_withStem_eq_none_iff :
    (withStem fs stem d).head? = none ↔ ∀ q, ¬ HasStem fs d stem q := by
  rw [List.head?_eq_none_iff, List.eq_nil_iff_forall_not_mem]
  simp only [withStem, List.mem_mergeSort, mem_files]

/-! ## Where is searched -/

/-- Directories are searched for a path: its parent comes first if that is a directory, and then the
search path. -/
inductive Searched (fs : FileSystem) (searchPath : List Path) (stored : Path) : List Path → Prop
  | beside {parent : Path} (hparent : stored.parent? = some parent)
    (hdirectory : fs.isDirectory parent = true) :
    Searched fs searchPath stored (parent :: searchPath)
  | elsewhere (hnone : ∀ parent, stored.parent? = some parent → fs.isDirectory parent = false) :
    Searched fs searchPath stored searchPath

theorem searched_iff {stored : Path} :
    Searched fs searchPath stored ds ↔ ds = directories fs searchPath stored := by
  unfold directories
  constructor
  · rintro (⟨hparent, hdirectory⟩ | hnone)
    · rw [hparent, Option.filter_some, hdirectory]
      rfl
    · rcases hparent : stored.parent? with _ | parent
      · rfl
      · rw [Option.filter_some, hnone parent hparent]
        rfl
  · rintro rfl
    rcases hparent : stored.parent? with _ | parent
    · exact .elsewhere fun parent h => nomatch hparent.symm.trans h
    · rcases hdirectory : fs.isDirectory parent with _ | _
      · rw [Option.filter_some, hdirectory]
        refine .elsewhere fun parent' h => ?_
        rw [Option.some.inj (hparent.symm.trans h)] at hdirectory
        exact hdirectory
      · rw [Option.filter_some, hdirectory]
        exact .beside hparent hdirectory

/-! ## What is searched for -/

/-- No directory has a file of a name. -/
def NoneNamed (fs : FileSystem) (ds : List Path) (name : Name) : Prop :=
  ∀ d ∈ ds, fs.isFile (d.join (String.ofList name)) = false

instance : Decidable (NoneNamed fs ds name) :=
  inferInstanceAs (Decidable (∀ d ∈ ds, fs.isFile (d.join (String.ofList name)) = false))

/-- No directory has a file of a stem. -/
def NoneStemmed (fs : FileSystem) (ds : List Path) (stem : Name) : Prop :=
  ∀ d ∈ ds, ∀ q, ¬ HasStem fs d stem q

theorem byName?_eq_some_iff :
    byName? fs ds name = some p ↔ ∃ before d after, ds = before ++ d :: after ∧
      NoneNamed fs before name ∧ fs.isFile p = true ∧ p = d.join (String.ofList name) := by
  unfold byName? NoneNamed
  rw [List.find?_map, Option.map_eq_some_iff]
  simp only [List.find?_eq_some_iff_append, Function.comp_apply, Bool.not_eq_true']
  constructor
  · rintro ⟨d, ⟨hfile, before, after, hds, hbefore⟩, rfl⟩
    exact ⟨before, d, after, hds, hbefore, hfile, rfl⟩
  · rintro ⟨before, d, after, hds, hbefore, hfile, rfl⟩
    exact ⟨d, ⟨hfile, before, after, hds, hbefore⟩, rfl⟩

theorem byName?_eq_none_iff : byName? fs ds name = none ↔ NoneNamed fs ds name := by
  unfold byName? NoneNamed
  simp

theorem byStem?_eq_some_iff :
    byStem? fs ds stem = some p ↔ ∃ before d after, ds = before ++ d :: after ∧
      NoneStemmed fs before stem ∧ (withStem fs stem d).head? = some p := by
  unfold byStem? NoneStemmed
  simp only [List.findSome?_eq_some_iff, head?_withStem_eq_none_iff]
  constructor
  · rintro ⟨before, d, after, hds, hfound, hbefore⟩
    exact ⟨before, d, after, hds, hbefore, hfound⟩
  · rintro ⟨before, d, after, hds, hbefore, hfound⟩
    exact ⟨before, d, after, hds, hfound, hbefore⟩

theorem byStem?_eq_none_iff : byStem? fs ds stem = none ↔ NoneStemmed fs ds stem := by
  unfold byStem? NoneStemmed
  simp only [List.findSome?_eq_none_iff, head?_withStem_eq_none_iff]

/-- A file is the one that the text of a library stands for. -/
inductive Found (fs : FileSystem) (searchPath : List Path) (library : String) : Path → Prop
  /-- The text is the path of a file. -/
  | itself (h : fs.isFile ⟨library⟩ = true) : Found fs searchPath library ⟨library⟩
  /-- The earliest directory that has a file of the name has this one. -/
  | named {name : Name} {before after : List Path} {d : Path}
      (hself : fs.isFile ⟨library⟩ = false)
      (hname : (⟨library⟩ : Path).fileName? = some name)
      (hsearched : Searched fs searchPath ⟨library⟩ (before ++ d :: after))
      (hbefore : NoneNamed fs before name)
      (h : fs.isFile (d.join (String.ofList name)) = true) :
      Found fs searchPath library (d.join (String.ofList name))
  /-- None has a file of the name. Of the earliest directory that has files of the stem this is the
  smallest one. -/
  | stemmed {name stem : Name} {before after : List Path} {d p : Path}
      (hself : fs.isFile ⟨library⟩ = false)
      (hname : (⟨library⟩ : Path).fileName? = some name)
      (hstem : (⟨library⟩ : Path).fileStem? = some stem)
      (hsearched : Searched fs searchPath ⟨library⟩ (before ++ d :: after))
      (hnone : NoneNamed fs (before ++ d :: after) name)
      (hbefore : NoneStemmed fs before stem)
      (h : HasStem fs d stem p) (hleast : ∀ q, HasStem fs d stem q → p.le q = true) :
      Found fs searchPath library p

/-- There is no file that the text of a library stands for: it is no path of a file, and it has no
name, or else no directory has a file of the name or of the stem. -/
def Missing (fs : FileSystem) (searchPath : List Path) (library : String) : Prop :=
  fs.isFile ⟨library⟩ = false ∧
    ((⟨library⟩ : Path).fileName? = none ∨
      ∃ name stem ds, (⟨library⟩ : Path).fileName? = some name ∧
        (⟨library⟩ : Path).fileStem? = some stem ∧ Searched fs searchPath ⟨library⟩ ds ∧
        NoneNamed fs ds name ∧ NoneStemmed fs ds stem)

theorem found_of_file? (h : file? fs searchPath library = some p) :
    Found fs searchPath library p := by
  unfold file? at h
  dsimp only at h
  split at h
  · next hself =>
    cases h
    exact .itself hself
  · next hself =>
    rw [Bool.not_eq_true] at hself
    rcases hname : (⟨library⟩ : Path).fileName? with _ | name
    · rw [hname] at h
      cases h
    rw [hname] at h
    dsimp only at h
    -- All directories are asked for the name before any is asked for the stem.
    rcases hnamed : byName? fs (directories fs searchPath ⟨library⟩) name with _ | q
    · rw [hnamed, Option.orElse_none] at h
      rw [byName?_eq_none_iff] at hnamed
      obtain ⟨before, d, after, hsplit, hbefore, hhead⟩ := byStem?_eq_some_iff.mp h
      obtain ⟨hfile, hleast⟩ := head?_withStem_some hhead
      have hstem := Path.fileStem?_of_fileName? hname
      rw [hsplit] at hnamed
      exact .stemmed hself hname hstem (searched_iff.mpr hsplit.symm) hnamed hbefore hfile hleast
    · rw [hnamed, Option.orElse_some] at h
      cases h
      obtain ⟨before, d, after, hsplit, hbefore, hfile, rfl⟩ := byName?_eq_some_iff.mp hnamed
      exact .named hself hname (searched_iff.mpr hsplit.symm) hbefore hfile

theorem file?_eq_none_iff : file? fs searchPath library = none ↔ Missing fs searchPath library := by
  unfold file? Missing
  dsimp only
  by_cases hself : fs.isFile ⟨library⟩ = true
  · simp [hself]
  · rw [Bool.not_eq_true] at hself
    rcases hname : (⟨library⟩ : Path).fileName? with _ | name
    · simp [hself]
    · have hstem := Path.fileStem?_of_fileName? hname
      simp [hself, hstem, Option.orElse_eq_or, Option.or_eq_none_iff, byName?_eq_none_iff,
        byStem?_eq_none_iff, searched_iff]

/-- The file that a text stands for is found, if not under this very path. -/
theorem file?_of_found (h : Found fs searchPath library p) :
    ∃ q, file? fs searchPath library = some q ∧ q.same p = true := by
  unfold file?
  cases h with
  | itself h => exact ⟨_, if_pos h, Path.same_refl _⟩
  | named hself hname hsearched hbefore h =>
    have hsplit := (searched_iff.mp hsearched).symm
    have hnamed := byName?_eq_some_iff.mpr ⟨_, _, _, hsplit, hbefore, h, rfl⟩
    refine ⟨_, ?_, Path.same_refl _⟩
    simp [hself, hname, hnamed]
  | @stemmed name stem before after d p hself hname hstem hsearched hnone hbefore h hleast =>
    have hsplit := (searched_iff.mp hsearched).symm
    rw [← hsplit] at hnone
    rw [Path.fileStem?_of_fileName? hname, Option.some.injEq] at hstem
    subst hstem
    rcases hhead : (withStem fs (Path.stemOf name) d).head? with _ | q
    · exact absurd h (head?_withStem_eq_none_iff.mp hhead p)
    · -- Both come before each other, since each is the smallest.
      obtain ⟨hq, hleast'⟩ := head?_withStem_some hhead
      have hstemmed := byStem?_eq_some_iff.mpr ⟨_, _, _, hsplit, hbefore, hhead⟩
      refine ⟨q, ?_, Path.same_of_le (hleast' p h) (hleast q hq)⟩
      simp [hself, hname, byName?_eq_none_iff.mpr hnone, hstemmed]

theorem isFile_of_found (h : Found fs searchPath library p) : fs.isFile p = true := by
  cases h with
  | itself h => exact h
  | named _ _ _ _ h => exact h
  | stemmed _ _ _ _ _ _ h _ =>
    obtain ⟨_, _, _, _, _, hfile, _⟩ := h
    exact hfile

/-- Whatever is found has the stem of the text. -/
theorem fileStem?_of_found (h : Found fs searchPath library p) :
    p.fileStem? = (⟨library⟩ : Path).fileStem? := by
  cases h with
  | itself h => rfl
  -- A file name is one piece, so it is still the last one after the join.
  | @named name before after d hself hname hsearched hbefore h =>
    have hjoin := Path.fileName?_join d (Path.properName_of_fileName? hname)
    rw [Path.fileStem?_of_fileName? hjoin, Path.fileStem?_of_fileName? hname]
  | stemmed _ _ hstem _ _ _ h _ =>
    obtain ⟨_, _, _, _, _, _, hp⟩ := h
    rw [hp, hstem]

/-- A file in the search path is found by its stem, or another one is. -/
theorem exists_found_of_hasStem (hd : d ∈ searchPath) (h : HasStem fs d stem q)
    (hstem : (⟨library⟩ : Path).fileStem? = some stem) :
    ∃ p, file? fs searchPath library = some p := by
  rcases hfile : file? fs searchPath library with _ | p
  · obtain ⟨_, hnone⟩ := file?_eq_none_iff.mp hfile
    rcases hnone with hname | ⟨_, stem', ds, _, hstem', hsearched, _, hnone⟩
    · rw [Path.fileStem?, hname] at hstem
      cases hstem
    · rw [hstem, Option.some.injEq] at hstem'
      subst hstem'
      rw [searched_iff] at hsearched
      exact absurd h (hnone d (hsearched ▸ List.mem_append_right _ hd) q)
  · exact ⟨p, rfl⟩

end Locate

namespace Rack

open Locate

/-! ## The law -/

/-- In any file system the text of a library leads to the file that it stands for, which is the path
itself, or else the file of the name in the earliest directory that has one, or else the smallest
file of the stem in the earliest directory that has one. It fails just if there is none. -/
theorem a_library_is_found_by_its_name_before_its_stem (r : Rack) (fs : FileSystem)
    (library : String) :
    (∀ p, r.locateIn fs library = .ok p →
      Found fs r.searchPath library p ∧ fs.isFile p = true) ∧
    (∀ p, Found fs r.searchPath library p →
      ∃ q, r.locateIn fs library = .ok q ∧ q.same p = true) ∧
    (∀ e, r.locateIn fs library = .error e ↔
      e = .loadFailure ⟨library⟩ "library not found in search path" ∧
        Missing fs r.searchPath library) := by
  unfold locateIn
  refine ⟨fun p h => ?_, fun p h => ?_, fun e => ?_⟩
  · rcases hfile : file? fs r.searchPath library with _ | q
    · rw [hfile] at h
      cases h
    · rw [hfile] at h
      cases h
      have hfound := found_of_file? hfile
      exact ⟨hfound, isFile_of_found hfound⟩
  · obtain ⟨q, hfile, hsame⟩ := file?_of_found h
    exact ⟨q, by rw [hfile], hsame⟩
  · rw [← file?_eq_none_iff]
    rcases file? fs r.searchPath library with _ | q
    · simp [notInSearchPath, eq_comm]
    · simp

/-- Two directories with effects, of which the first one can not be read, and one beside them. -/
def lockedEffects : FileSystem where
  isFile p := p.text ∈ ["l/amp.dylib", "m/amp.so", "m/amp.dll", "n/amp.so", "n/amp.dylib"]
  isDirectory p := p.text ∈ ["l", "m", "n"]
  names? p :=
    if p.text = "m" then some ["amp.so".toList, "amp.dll".toList]
    else if p.text = "n" then some ["amp.so".toList, "amp.dylib".toList]
    else none

/-- A name is found in the first directory and a stem only in the second one, where the smaller one
of two files is taken. But a directory that the text itself names comes before both, also for the
stem. -/
theorem an_unreadable_directory_is_searched_by_name :
    let r := empty 0 .ladspa [⟨"l"⟩, ⟨"m"⟩]
    Found lockedEffects r.searchPath "amp.dylib" ⟨"l/amp.dylib"⟩ ∧
    (∃ p, r.locateIn lockedEffects "/gone/amp.vst" = .ok p ∧ p.same ⟨"m/amp.dll"⟩ = true) ∧
    (∃ p, r.locateIn lockedEffects "n/amp.vst" = .ok p ∧ p.same ⟨"n/amp.dylib"⟩ = true) ∧
    Missing lockedEffects r.searchPath "drum" := by
  intro r
  have law := a_library_is_found_by_its_name_before_its_stem r lockedEffects
  refine ⟨?_, ?_, ?_, ?_⟩
  · have hnamed : file? lockedEffects r.searchPath "amp.dylib" = some ⟨"l/amp.dylib"⟩ := by
      decide +kernel
    obtain ⟨hfound, _, _⟩ := law "amp.dylib"
    exact (hfound _ (by rw [locateIn, hnamed])).1
  · have hstemmed : HasStem lockedEffects ⟨"m"⟩ "amp".toList ⟨"m/amp.dll"⟩ :=
      ⟨_, "amp.dll".toList, rfl, by decide, by decide +kernel, by decide +kernel, by decide +kernel⟩
    have hsearched : Searched lockedEffects r.searchPath ⟨"/gone/amp.vst"⟩ ([⟨"l"⟩] ++ [⟨"m"⟩]) :=
      searched_iff.mpr (by decide +kernel)
    have hself : lockedEffects.isFile ⟨"/gone/amp.vst"⟩ = false := by decide +kernel
    have hname : (⟨"/gone/amp.vst"⟩ : Path).fileName? = some "amp.vst".toList := by decide +kernel
    have hstem := Path.fileStem?_of_fileName? hname
    obtain ⟨_, hok, _⟩ := law "/gone/amp.vst"
    refine hok _ (.stemmed hself hname hstem hsearched (by decide +kernel) ?_ hstemmed
      (le_of_hasStem rfl (by decide +kernel)))
    rintro d hd q ⟨names, _, hnames, _⟩
    rw [List.mem_singleton.mp hd] at hnames
    cases hnames
  · have hstemmed : HasStem lockedEffects ⟨"n"⟩ "amp".toList ⟨"n/amp.dylib"⟩ :=
      ⟨_, "amp.dylib".toList, rfl, by decide, by decide +kernel, by decide +kernel,
        by decide +kernel⟩
    have hsearched : Searched lockedEffects r.searchPath ⟨"n/amp.vst"⟩
        ([] ++ ⟨"n"⟩ :: [⟨"l"⟩, ⟨"m"⟩]) :=
      .beside (by decide +kernel) (by decide +kernel)
    have hself : lockedEffects.isFile ⟨"n/amp.vst"⟩ = false := by decide +kernel
    have hname : (⟨"n/amp.vst"⟩ : Path).fileName? = some "amp.vst".toList := by decide +kernel
    have hstem := Path.fileStem?_of_fileName? hname
    obtain ⟨_, hok, _⟩ := law "n/amp.vst"
    exact hok _ (.stemmed hself hname hstem hsearched (by decide +kernel)
      (fun d hd => nomatch hd) hstemmed (le_of_hasStem rfl (by decide +kernel)))
  · have hnone : file? lockedEffects r.searchPath "drum" = none := by decide +kernel
    obtain ⟨_, _, herror⟩ := law "drum"
    exact ((herror _).mp (by rw [locateIn, hnone])).2

end Rack

end AudioHost
