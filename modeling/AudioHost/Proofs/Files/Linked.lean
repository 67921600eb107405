import Mathlib.Data.List.Basic
import AudioHost.Proofs.Files.Following

/-!
File systems with links. In a coherent one a directory has proper names only, and a name that leads
to a file is no directory; a tree of proper names is one. There two files are the same real file
just if they lie at the same place.
-/

namespace AudioHost

namespace LinkedSystem

variable {fs : LinkedSystem} {p q : Path}

/-! ## Files that are the same -/

theorem sameFile_refl (fs : LinkedSystem) (p : Path) : fs.sameFile p p = true :=
  Path.same_refl _

theorem sameFile_comm (fs : LinkedSystem) (p q : Path) : fs.sameFile p q = fs.sameFile q p :=
  Path.same_comm _ _

/-! ## Coherence -/

/-- What is known of every file system: a directory has neither itself nor its parent among its
names, and what is a directory is no file. -/
structure Coherent (fs : LinkedSystem) : Prop where
  /-- What is listed in a directory can stand in one. -/
  proper : ∀ {directory names name}, fs.names? directory = some names → name ∈ names →
    Path.ProperName name
  /-- A listed name that leads to a file is no directory. -/
  plain : ∀ {directory names name}, fs.names? directory = some names → name ∈ names →
    fs.isFile (directory.join (String.ofList name)) = true → fs.isPlain directory name = true

end LinkedSystem

namespace FileTree

variable {t : FileTree} {p q : Path} {place place' : Place}

/-- The names in the tree can stand in directories. -/
def Proper (t : FileTree) : Prop := ∀ e ∈ t.entries, ∀ name ∈ e.1, Path.ProperName name

instance : Decidable t.Proper :=
  inferInstanceAs (Decidable (∀ e ∈ t.entries, ∀ name ∈ e.1, Path.ProperName name))

theorem mem_names? {d : Path} {names : List Name} {name : Name} (hnames : t.names? d = some names)
    (hname : name ∈ names) :
    ∃ place, t.find d = .ok place ∧ t.entryAt place = some .directory ∧
      ∃ e ∈ t.entries, name ∈ e.1 := by
  unfold names? at hnames
  split at hnames
  · next place hplace =>
    split at hnames
    · cases hnames
    · next hdirectory =>
      refine ⟨place, hplace, not_not.mp hdirectory, ?_⟩
      cases place with
      | outside =>
        cases hnames
        cases hname
      | inside directory =>
        cases hnames
        obtain ⟨e, he, hwithin⟩ := List.mem_filterMap.mp (List.mem_eraseDups.mp hname)
        unfold nameWithin at hwithin
        split at hwithin
        · exact ⟨e, he, List.mem_of_getLast? hwithin⟩
        · cases hwithin
  · cases hnames

theorem coherent (h : t.Proper) : t.linked.Coherent where
  proper := by
    intro d names name hnames hname
    obtain ⟨_, _, _, e, he, hmem⟩ := mem_names? hnames hname
    exact h e he name hmem
  plain := by
    intro d names name hnames hname hfile
    obtain ⟨place, hplace, hdirectory, e, he, hmem⟩ := mem_names? hnames hname
    obtain ⟨place', content, executable, hfound, hentry⟩ := find_of_isFile hfile
    refine bne_iff_ne.mpr fun hin => ?_
    have hother := find_join (h e he name hmem) hplace hdirectory hin (fun _ => nofun) hfound
    rw [hentry] at hother
    cases hother

/-! ## Real files -/

theorem target_linked (h : t.find p = .ok place) : t.linked.target p = place.path := by
  simp [LinkedSystem.target, linked, h, Except.toOption]

/-- Same paths are of one real file, if both of them lead to files. -/
theorem sameFile_of_same (hp : t.isFile p = true) (hq : t.isFile q = true)
    (h : p.same q = true) : t.linked.sameFile p q = true := by
  obtain ⟨place, _, _, hplace, _⟩ := find_of_isFile hp
  obtain ⟨place', _, _, hplace', _⟩ := find_of_isFile hq
  rw [LinkedSystem.sameFile, target_linked hplace, target_linked hplace',
    find_eq_of_same h hplace hplace', Path.same_refl]

theorem parts_path {names : List Name} (h : ∀ name ∈ names, Path.ProperName name) :
    (Place.inside names).path.parts = names.map .name := by
  cases names with
  | nil => rfl
  | cons name names =>
    obtain ⟨hname, _⟩ := List.forall_mem_cons.mp h
    have hsplit : Text.splitAll '/' (Place.inside (name :: names)).path.chars = name :: names := by
      rw [Place.path, Path.chars, String.toList_ofList]
      exact Text.splitAll_intercalate (List.cons_ne_nil _ _) fun name hname => (h name hname).1
    have hrelative : (Place.inside (name :: names)).path.isAbsolute = false := by
      -- The first piece of an absolute path is empty.
      refine Bool.eq_false_iff.mpr fun habsolute => ?_
      obtain ⟨rest, hrest⟩ := List.head?_eq_some_iff.mp (beq_iff_eq.mp habsolute)
      rw [hrest, Text.splitAll, if_pos rfl] at hsplit
      exact hname.2.1 (List.cons.inj hsplit).1.symm
    have hnames : (name :: names).filterMap Path.partOf = (name :: names).map .name := by
      rw [← List.filterMap_eq_map]
      exact List.filterMap_congr fun name hname => Path.partOf_proper (h name hname)
    simp only [Path.parts, hsplit, hrelative, hnames]
    simp [hname.2.2.1]

/-- In a proper tree two paths are of one real file just if they lead to the same place. -/
theorem sameFile_iff_find_eq (h : t.Proper) (hp : t.isFile p = true) (hq : t.isFile q = true) :
    t.linked.sameFile p q = true ↔ t.find p = t.find q := by
  have hproper {p} (hp : t.isFile p = true) : ∃ names, t.find p = .ok (.inside names) ∧
      (Place.inside names).path.parts = names.map .name := by
    obtain ⟨place, content, executable, hplace, hentry⟩ := find_of_isFile hp
    cases place with
    | outside => cases hentry
    | inside names =>
      refine ⟨names, hplace, parts_path ?_⟩
      cases names with
      | nil => cases hentry
      | cons name names =>
        obtain ⟨front, back, hentries, _⟩ := List.lookup_eq_some_iff.mp hentry
        have hmem : (name :: names, .file content executable) ∈ t.entries := by simp [hentries]
        exact h _ hmem
  obtain ⟨names, hplace, hparts⟩ := hproper hp
  obtain ⟨names', hplace', hparts'⟩ := hproper hq
  have hinjective : Function.Injective Path.Part.name := fun _ _ h => by cases h; rfl
  rw [LinkedSystem.sameFile, target_linked hplace, target_linked hplace', hplace, hplace',
    Path.same, beq_iff_eq, hparts, hparts']
  simp [List.map_inj_right hinjective]

end FileTree

end AudioHost
