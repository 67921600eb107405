import AudioHost.Proofs.Plugin.Stems
import AudioHost.Proofs.Rack.Locating

/-!
Libraries that are looked for by the canonical form of an identifier. The form keeps the stem of the
file that the identifier was made from, so a file with this stem is found, wherever it lies now.
-/

namespace AudioHost.Rack

open Locate Identifier

variable {r : Rack} {fs : FileSystem} {d : Path} {names : List Name} {name front : Name}
  {id : Identifier}

/-- Only the name counts, so the identifier may have been made when the library lay elsewhere. -/
theorem locateIn_canonical (hd : d ∈ r.searchPath) (hnames : fs.names? d = some names)
    (hname : name ∈ names) (hfile : fs.isFile (d.join (String.ofList name)) = true)
    (hproper : Path.ProperName name) (hback : '\\' ∉ name)
    (hstem : Path.ProperName (Path.stemOf name)) (hbare : Bare (Path.stemOf name))
    (hlibrary : id.library.toList = front ++ name) (hfront : Path.Leads front) :
    ∃ p, r.locateIn fs id.canonical.library = .ok p ∧ fs.isFile p = true ∧
      p.fileStem? = some (Path.stemOf name) := by
  rw [library_canonical_of_name hlibrary hfront hproper hback]
  have hsought := fileStem?_of_bare hstem hbare
  have hlisted : HasStem fs d (Path.stemOf name) (d.join (String.ofList name)) := by
    have hjoin := Path.fileName?_join d hproper
    exact ⟨names, name, hnames, hname, rfl, hfile, Path.fileStem?_of_fileName? hjoin⟩
  obtain ⟨p, hp⟩ := exists_found_of_hasStem hd hlisted hsought
  have hfound := found_of_file? hp
  refine ⟨p, ?_, isFile_of_found hfound, ?_⟩
  · rw [locateIn, hp]
  · rw [fileStem?_of_found hfound, hsought]

/-! ## The law -/

/-- A library file in a directory of the search path that can be read is found again, or another
file with its stem is, by the canonical form of an identifier that is made from its path. Its name
has no backslash, and its stem is a file name that has no ending to lose. -/
theorem a_canonical_form_leads_to_a_file_of_the_stem (r : Rack) (fs : FileSystem) (d : Path)
    (names : List Name) (name : Name) (id : Identifier) (hd : d ∈ r.searchPath)
    (hnames : fs.names? d = some names) (hname : name ∈ names)
    (hfile : fs.isFile (d.join (String.ofList name)) = true) (hproper : Path.ProperName name)
    (hback : '\\' ∉ name) (hstem : Path.ProperName (Path.stemOf name))
    (hbare : Bare (Path.stemOf name)) (hid : id.library = (d.join (String.ofList name)).text) :
    (d.join (String.ofList name)).fileStem? = some (Path.stemOf name) ∧
      ∃ p, r.locateIn fs id.canonical.library = .ok p ∧ fs.isFile p = true ∧
        p.fileStem? = some (Path.stemOf name) := by
  refine ⟨Path.fileStem?_of_fileName? (Path.fileName?_join d hproper), ?_⟩
  obtain ⟨front, hchars, hfront⟩ := Path.chars_join d hproper
  rw [Path.chars, ← hid] at hchars
  exact locateIn_canonical hd hnames hname hfile hproper hback hstem hbare hchars hfront

/-- The file lies in the second directory, with one ending behind its stem. -/
theorem a_canonical_form_leads_to_the_readable_directory :
    let r := empty 0 .ladspa [⟨"l"⟩, ⟨"m"⟩]
    let id : Identifier := ⟨.ladspa, "m/amp.so", "amp"⟩
    ∃ p, r.locateIn lockedEffects id.canonical.library = .ok p ∧
      p.fileStem? = some "amp".toList := by
  intro r id
  obtain ⟨_, p, hp, _, hstem⟩ := a_canonical_form_leads_to_a_file_of_the_stem r lockedEffects ⟨"m"⟩
    _ "amp.so".toList id (by decide) rfl (by decide) (by decide +kernel) (by decide) (by decide)
    (by decide +kernel) (by decide +kernel) (by decide +kernel)
  have hamp : Path.stemOf "amp.so".toList = "amp".toList := by decide +kernel
  exact ⟨p, hp, hstem.trans (congrArg some hamp)⟩

/-- The canonical form is cut at a backslash too, which can stand in a name, and in a directory that
can not be read nothing is found by its stem. -/
theorem a_name_with_a_backslash_is_not_found_again :
    let r := empty 0 .ladspa [⟨"p"⟩]
    let files : FileTree := ⟨[(["p".toList], .directory),
      (["p".toList, "a\\b.so".toList], .file (.bytes []) false)]⟩
    let id : Identifier := ⟨.ladspa, "p/a\\b.so", "amp"⟩
    let locked := empty 0 .ladspa [⟨"l"⟩]
    let id' : Identifier := ⟨.ladspa, "l/amp.dylib", "amp"⟩
    (files.isFile ⟨"p/a\\b.so"⟩ = true ∧ files.isFile ⟨"b"⟩ = false ∧
      r.locate files id.canonical.library =
        .error (.loadFailure ⟨"b"⟩ "library not found in search path")) ∧
    (lockedEffects.isFile ⟨"l/amp.dylib"⟩ = true ∧ lockedEffects.isFile ⟨"amp"⟩ = false ∧
      locked.locateIn lockedEffects id'.canonical.library =
        .error (.loadFailure ⟨"amp"⟩ "library not found in search path")) := by
  intro r files id locked id'
  have hb : id.canonical.library = "b" := by decide +kernel
  have hamp : id'.canonical.library = "amp" := by decide +kernel
  have hnone : file? files.system r.searchPath "b" = none := by decide +kernel
  have hnone' : file? lockedEffects locked.searchPath "amp" = none := by decide +kernel
  refine ⟨⟨by decide +kernel, by decide +kernel, ?_⟩, by decide +kernel, by decide +kernel, ?_⟩
  · rw [hb, locate, locateIn, hnone]
    rfl
  · rw [hamp, locateIn, hnone']
    rfl

end AudioHost.Rack
