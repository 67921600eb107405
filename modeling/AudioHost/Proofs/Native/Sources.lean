import AudioHost.Discovery.Probe
import AudioHost.Proofs.Files.Following
import AudioHost.Proofs.Text.Split

/-!
What lies at a path. It is decided by the files and by what was put there, so that a library which
is opened again by the same path exports the same tables. One character at the end of a path is lost
on the way to the system, and a path without a slash names a library of the system.
-/

namespace AudioHost

variable {t : FileTree} {p q : Path} {c : Char} {cs : List Char}

/-! ## The last character of a path -/

theorem Text.dropLastIf_cases (c : Char) (cs : List Char) :
    dropLastIf c cs = cs ∨ cs = dropLastIf c cs ++ [c] := by
  unfold dropLastIf
  split
  · next hlast =>
    obtain ⟨front, rfl⟩ := List.getLast?_eq_some_iff.mp hlast
    rw [List.dropLast_concat]
    exact Or.inr rfl
  · exact Or.inl rfl

namespace FileTree

theorem stepOf_concat (hdot : c ≠ '.') (piece : List Char) :
    stepOf (piece ++ [c]) = some (.down (piece ++ [c])) := by
  have hlast : ∀ row : List Char, row.getLast? ≠ some c → piece ++ [c] ≠ row := by
    rintro row hrow rfl
    exact hrow List.getLast?_concat
  unfold stepOf
  rw [if_neg (hlast _ (by simp)), if_neg (hlast _ (by simpa using Ne.symm hdot)),
    if_neg (hlast _ (by simpa using Ne.symm hdot))]

/-- A character at the end changes nothing but the last piece. -/
theorem moves_concat (hslash : c ≠ '/') (hdot : c ≠ '.') (cs : List Char) :
    ∃ front last, moves (steps ⟨String.ofList (cs ++ [c])⟩) = front ++ [.down (last ++ [c])] ∧
      moves (steps ⟨String.ofList cs⟩) = front ++ moves (stepOf last).toList := by
  obtain ⟨front, last, hbefore, hafter⟩ := Text.splitAll_concat hslash cs
  refine ⟨moves (front.filterMap stepOf), last, ?_, ?_⟩
  · rw [moves_steps, Path.chars, String.toList_ofList, hafter, List.filterMap_append, moves,
      List.filter_append, List.filterMap_cons, stepOf_concat hdot]
    rfl
  · rw [moves_steps, Path.chars, String.toList_ofList, hbefore, List.filterMap_append, moves,
      List.filter_append, List.filterMap_cons]
    cases stepOf last <;> rfl

theorem mem_chars_of_down {name : Name} (hname : .down name ∈ moves (steps p)) (hc : c ∈ name) :
    c ∈ p.chars := by
  rw [moves_steps] at hname
  obtain ⟨piece, hpiece, hstep⟩ := List.mem_filterMap.mp (List.mem_filter.mp hname).1
  have heq : piece = name := by
    unfold stepOf at hstep
    split at hstep
    · cases hstep
    · split at hstep
      · cases hstep
      · split at hstep
        · cases hstep
        · cases hstep
          rfl
  exact Text.mem_of_mem_splitAll hpiece (heq ▸ hc)

/-- A character at the end of a path is in every same path. -/
theorem mem_of_moves_concat (hslash : c ≠ '/') (hdot : c ≠ '.')
    (h : moves (steps ⟨String.ofList (cs ++ [c])⟩) = moves (steps q)) : c ∈ q.chars := by
  obtain ⟨front, last, hafter, _⟩ := moves_concat hslash hdot cs
  have hdown : .down (last ++ [c]) ∈ moves (steps q) := by
    rw [← h, hafter]
    simp
  exact mem_chars_of_down hdown (by simp)

/-- Same paths that both end with a character are the same without it. -/
theorem moves_eq_of_concat {ds : List Char} (hslash : c ≠ '/') (hdot : c ≠ '.')
    (h : moves (steps ⟨String.ofList (cs ++ [c])⟩) = moves (steps ⟨String.ofList (ds ++ [c])⟩)) :
    moves (steps ⟨String.ofList cs⟩) = moves (steps ⟨String.ofList ds⟩) := by
  obtain ⟨front, last, hafter, hbefore⟩ := moves_concat hslash hdot cs
  obtain ⟨front', last', hafter', hbefore'⟩ := moves_concat hslash hdot ds
  rw [hafter, hafter'] at h
  obtain ⟨hfront, hlast⟩ := List.append_inj' h rfl
  obtain rfl : last = last' := by
    have hdown := Step.down.inj (List.singleton_inj.mp hlast)
    exact (List.append_inj' hdown rfl).1
  rw [hbefore, hbefore', hfront]

theorem content?_eq_some {content : Content} (h : t.content? p = some content) :
    ∃ place executable, t.find p = .ok place ∧
      t.entryAt place = some (.file content executable) := by
  unfold content? lookUp? at h
  rcases hfound : t.find p with e | place
  · rw [hfound] at h
    cases h
  · rw [hfound] at h
    dsimp only at h
    split at h
    · next executable hentry =>
      cases h
      exact ⟨place, executable, rfl, hentry⟩
    · cases h

end FileTree

/-! ## Paths as the system takes them -/

namespace Linker

open FileTree

/-- The path that the system takes for a path. -/
def systemPath (p : Path) : Path := ⟨String.ofList (systemText p.chars)⟩

theorem chars_systemPath (p : Path) : (systemPath p).chars = systemText p.chars :=
  String.toList_ofList

theorem systemPath_cases (p : Path) :
    systemPath p = p ∨ p = ⟨String.ofList ((systemPath p).chars ++ [Char.ofNat 0])⟩ := by
  rw [chars_systemPath]
  rcases Text.dropLastIf_cases (Char.ofNat 0) p.chars with hsame | hmore
  · refine Or.inl ?_
    rw [systemPath, systemText, hsame, Path.chars, String.ofList_toList]
  · refine Or.inr ?_
    rw [systemText, ← hmore, Path.chars, String.ofList_toList]

theorem isAbsolute_systemPath (h : (systemPath p).chars ≠ []) :
    (systemPath p).isAbsolute = p.isAbsolute := by
  rcases systemPath_cases p with hsame | hmore
  · rw [hsame]
  · obtain ⟨first, rest, hchars⟩ := List.exists_cons_of_ne_nil h
    rw [hchars] at hmore
    have hp : p.chars = first :: (rest ++ [Char.ofNat 0]) :=
      (congrArg Path.chars hmore).trans String.toList_ofList
    rw [Path.isAbsolute, Path.isAbsolute, hchars, hp]
    rfl

/-- Same paths are the same for the system, if it takes both of them. -/
theorem moves_systemPath (h : p.same q = true) (hp : Char.ofNat 0 ∉ (systemPath p).chars)
    (hq : Char.ofNat 0 ∉ (systemPath q).chars) :
    moves (steps (systemPath p)) = moves (steps (systemPath q)) := by
  have hmoves := moves_of_same h
  have hslash : Char.ofNat 0 ≠ '/' := by decide
  have hdot : Char.ofNat 0 ≠ '.' := by decide
  -- If only one path loses a character, then the other one holds it, and the system refuses it.
  rcases systemPath_cases p with hp' | hp' <;> rcases systemPath_cases q with hq' | hq'
  · rw [hp', hq', hmoves]
  · rw [hq'] at hmoves
    rw [hp'] at hp
    exact absurd (mem_of_moves_concat hslash hdot hmoves.symm) hp
  · rw [hp'] at hmoves
    rw [hq'] at hq
    exact absurd (mem_of_moves_concat hslash hdot hmoves) hq
  · rw [hp', hq'] at hmoves
    have hshort := moves_eq_of_concat hslash hdot hmoves
    rw [Path.chars, Path.chars, String.ofList_toList, String.ofList_toList] at hshort
    exact hshort

/-! ## What a library exports -/

variable {e e' : Exports} {fault fault' : Option String} {kind : PluginKind}

/-- A library that exports a table lies in a file. -/
theorem fileExports?_table (h : fileExports? t (systemText p.chars) = some e)
    (htable : (e.table? kind).isSome) : '/' ∈ (systemPath p).chars ∧
      ∃ s, t.content? (systemPath p) = some (.library s) ∧ s.exports? = some e := by
  rw [chars_systemPath]
  unfold fileExports? at h
  split at h
  · next hslash =>
    split at h
    · next s hcontent => exact ⟨hslash, s, hcontent, h⟩
    · cases h
  · split at h
    · cases h
      cases kind <;> cases htable
    · cases h

theorem load_file_eq_ok (h : load t p .file = .ok (e, fault)) :
    Char.ofNat 0 ∉ (systemPath p).chars ∧ fileExports? t (systemText p.chars) = some e := by
  rw [chars_systemPath]
  unfold load at h
  dsimp only at h
  split at h
  · cases h
  · next hzero =>
    split at h
    · next hexports =>
      cases h
      exact ⟨by simpa using hzero, hexports⟩
    · cases h

/-- Libraries with tables at same paths export the same. -/
theorem exports_eq_of_same {source : LibrarySource} (h : p.same q = true)
    (hp : load t p source = .ok (e, fault)) (hq : load t q source = .ok (e', fault'))
    (htable : (e.table? kind).isSome) (htable' : (e'.table? kind).isSome) : e = e' := by
  cases source with
  | specimen s => exact (Prod.mk.inj (Except.ok.inj (hp.symm.trans hq))).1
  | tables exports closeFault => exact (Prod.mk.inj (Except.ok.inj (hp.symm.trans hq))).1
  | none reason => cases hp
  | file =>
    obtain ⟨hpzero, hpexports⟩ := load_file_eq_ok hp
    obtain ⟨hqzero, hqexports⟩ := load_file_eq_ok hq
    obtain ⟨hpslash, s, hpcontent, hps⟩ := fileExports?_table hpexports htable
    obtain ⟨hqslash, s', hqcontent, hqs⟩ := fileExports?_table hqexports htable'
    obtain ⟨place, executable, hpfound, hpentry⟩ := content?_eq_some hpcontent
    obtain ⟨place', executable', hqfound, hqentry⟩ := content?_eq_some hqcontent
    have habsolute : (systemPath p).isAbsolute = (systemPath q).isAbsolute := by
      rw [isAbsolute_systemPath (List.ne_nil_of_mem hpslash),
        isAbsolute_systemPath (List.ne_nil_of_mem hqslash), isAbsolute_of_same h]
    obtain rfl : place = place' :=
      find_eq_of_moves habsolute (moves_systemPath h hpzero hqzero) hpfound hqfound
    rw [hpentry] at hqentry
    cases hqentry
    rw [hps] at hqs
    exact Option.some.inj hqs

/-! ## What a machine finds -/

theorem sourceAt_of_same (l : Linker) (h : p.same q = true) : l.sourceAt p = l.sourceAt q := by
  have hsame : (fun s : Path × LibrarySource => s.1.same p) = fun s => s.1.same q := by
    funext s
    rw [Path.same_comm s.1 p, Path.same_comm s.1 q, Path.same_congr h]
  rw [sourceAt, sourceAt, hsame]

theorem load_of_openAt {l l' : Linker} {o : OpenLibrary} (h : l.openAt t p = (.ok o, l')) :
    load t p (l.sourceAt p) = .ok (o.exports, o.closeFault) := by
  unfold openAt at h
  dsimp only at h
  split at h
  · cases h
  · next hload =>
    cases h
    exact hload

theorem openAt_of_load {l : Linker} (h : load t p (l.sourceAt p) = .ok (e, fault)) :
    ∃ o l', l.openAt t p = (.ok o, l') ∧ o.exports = e := by
  unfold openAt
  dsimp only
  rw [h]
  exact ⟨_, _, rfl, rfl⟩

end Linker

namespace Machine

variable {m : Machine} {e e' : Exports} {fault fault' : Option String} {kind : PluginKind}

/-- What the library at a path exports on a machine, or why it cannot be loaded. -/
def load (m : Machine) (p : Path) : Except String (Exports × Option String) :=
  Linker.load m.files p (m.linker.sourceAt p)

/-- Libraries with tables at same paths export the same on a machine. -/
theorem exports_eq_of_same (h : p.same q = true) (hp : m.load p = .ok (e, fault))
    (hq : m.load q = .ok (e', fault')) (htable : (e.table? kind).isSome)
    (htable' : (e'.table? kind).isSome) : e = e' := by
  unfold load at hp hq
  rw [← Linker.sourceAt_of_same m.linker h] at hq
  exact Linker.exports_eq_of_same h hp hq htable htable'

end Machine

/-! ## Symbols -/

theorem Exports.hasSymbol_symbol (e : Exports) (kind : PluginKind) :
    e.hasSymbol kind.symbol = (e.table? kind).isSome := by
  cases kind <;> simp [hasSymbol, PluginKind.all, PluginKind.symbol]

/-- The symbol of a kind is found if there is a table of the kind, and no library of the system has
it. -/
theorem OpenLibrary.hasSymbol_symbol (o : OpenLibrary) (kind : PluginKind) :
    o.hasSymbol kind.symbol = (o.exports.table? kind).isSome := by
  have hname : String.ofList (systemText kind.symbol.toList) = kind.symbol := by
    cases kind <;> decide
  have hsystem : SystemLibrary.symbols.contains kind.symbol = false := by
    cases kind <;> decide +kernel
  unfold hasSymbol
  dsimp only
  rw [hname, hsystem, Exports.hasSymbol_symbol, Bool.or_false, ite_self]

theorem OpenLibrary.table_of_lookup {o : OpenLibrary} {kind : PluginKind}
    (h : o.lookup kind.symbol = .ok ()) : (o.exports.table? kind).isSome := by
  rw [← hasSymbol_symbol]
  unfold lookup at h
  split at h
  · next hsymbol => exact hsymbol
  · cases h

end AudioHost
