import Mathlib.Data.List.Induction
import AudioHost.Proofs.Plugin.Identifier
import AudioHost.Taxonomy.Basic

/-!
Where the category of a plugin comes from. An index is asked first. What it leaves open is decided
by the last line of all category texts that is about the plugin, and what they leave open by the
name of the plugin.
-/

namespace AudioHost

namespace Taxonomy

/-! ## Lines -/

/-- A line counts, and gives a key a category. Without the white space around it, the key stands
before its first `::`, and more than white space stands after it. -/
def Gives (line : List Char) (key category : String) : Prop :=
  ∃ rest, Text.trim line = key.toList ++ [':', ':'] ++ rest ∧
    (∀ front back, Text.trim line = front ++ [':', ':'] ++ back →
      key.toList.length ≤ front.length) ∧
    key ≠ "" ∧ (∃ c ∈ rest, Text.isBlank c = false) ∧ category.toList = Text.trim rest

theorem gives_iff {line : List Char} {key category : String} :
    Gives line key category ↔ lineOf? line = some (key.toList, category.toList) := by
  have hblank : ∀ rest, (∃ c ∈ rest, Text.isBlank c = false) ↔ Text.trim rest ≠ [] := by
    intro rest
    rw [ne_eq, Text.trim_eq_nil_iff]
    simp
  constructor
  · rintro ⟨rest, hline, hfirst, hkey, hrest, hcategory⟩
    unfold lineOf?
    rw [Text.splitAround?_eq_some_iff.mpr ⟨hline, hfirst⟩]
    dsimp only
    rw [if_neg, hcategory]
    simpa using ⟨hkey, (hblank rest).mp hrest⟩
  · intro h
    unfold lineOf? at h
    rcases hsplit : Text.splitAround? [':', ':'] (Text.trim line) with _ | ⟨front, rest⟩
    · rw [hsplit] at h
      cases h
    rw [hsplit] at h
    dsimp only at h
    split at h
    · cases h
    next hne =>
    rw [Option.some.injEq, Prod.mk.injEq] at h
    obtain ⟨rfl, hcategory⟩ := h
    obtain ⟨hline, hfirst⟩ := Text.splitAround?_eq_some_iff.mp hsplit
    simp only [Bool.or_eq_true, List.isEmpty_iff, not_or] at hne
    refine ⟨rest, hline, hfirst, ?_, (hblank rest).mpr hne.2, hcategory.symm⟩
    simpa using hne.1

theorem not_gives {line : List Char} (h : lineOf? line = none) (key category : String) :
    ¬ Gives line key category := by
  rw [gives_iff, h]
  exact nofun

theorem gives_iff_of_line {line key category : List Char}
    (h : lineOf? line = some (key, category)) (key' category' : String) :
    Gives line key' category' ↔ key' = String.ofList key ∧ category' = String.ofList category := by
  rw [gives_iff, h, Option.some.injEq, Prod.mk.injEq]
  constructor
  · rintro ⟨rfl, rfl⟩
    exact ⟨String.ofList_toList.symm, String.ofList_toList.symm⟩
  · rintro ⟨rfl, rfl⟩
    exact ⟨String.toList_ofList.symm, String.toList_ofList.symm⟩

/-- No line gives a key with a property a category. -/
def NoneGives (rows : List (List Char)) (p : String → Prop) : Prop :=
  ∀ row ∈ rows, ∀ key category, Gives row key category → ¬ p key

/-- The last line with a key that has a property gives the category. -/
def LastGives (rows : List (List Char)) (p : String → Prop) (category : String) : Prop :=
  ∃ before row after key, rows = before ++ row :: after ∧ Gives row key category ∧ p key ∧
    NoneGives after p

section Rows

variable {rows : List (List Char)} {row : List Char} {p : String → Prop} {category : String}

theorem noneGives_append {more : List (List Char)} :
    NoneGives (rows ++ more) p ↔ NoneGives rows p ∧ NoneGives more p := by
  unfold NoneGives
  exact List.forall_mem_append

theorem noneGives_singleton_iff :
    NoneGives [row] p ↔ ∀ key category, Gives row key category → ¬ p key := by
  unfold NoneGives
  simp only [List.mem_singleton, forall_eq]

theorem lastGives_snoc :
    LastGives (rows ++ [row]) p category ↔
      (∃ key, Gives row key category ∧ p key) ∨
        NoneGives [row] p ∧ LastGives rows p category := by
  constructor
  · rintro ⟨before, row', after, key, heq, hgives, hkey, hnone⟩
    -- Nothing follows the line, or the last one is the last of what follows it.
    rcases List.eq_nil_or_concat after with rfl | ⟨rest, last, rfl⟩
    · have hrow : [row] = [row'] := List.append_inj_right' heq rfl
      cases hrow
      exact Or.inl ⟨key, hgives, hkey⟩
    · rw [List.concat_eq_append] at heq hnone
      rw [← List.cons_append, ← List.append_assoc] at heq
      have hrow : [row] = [last] := List.append_inj_right' heq rfl
      cases hrow
      obtain ⟨hrest, hlast⟩ := noneGives_append.mp hnone
      exact Or.inr ⟨hlast, before, row', rest, key, List.append_inj_left' heq rfl, hgives, hkey,
        hrest⟩
  · rintro (⟨key, hgives, hkey⟩ | ⟨hrow, before, row', after, key, rfl, hgives, hkey, hnone⟩)
    · exact ⟨rows, row, [], key, rfl, hgives, hkey, fun _ h => absurd h List.not_mem_nil⟩
    · exact ⟨before, row', after ++ [row], key, by simp, hgives, hkey,
        noneGives_append.mpr ⟨hnone, hrow⟩⟩

end Rows

/-! ## Reading texts -/

/-- The lines of some texts, in order. -/
def rowsOf (texts : List String) : List (List Char) :=
  texts.flatMap fun text => Text.lines text.toList

/-- Reads category texts for a kind, one after the other. -/
def readAll (t : Taxonomy) (kind : PluginKind) (texts : List String) : Taxonomy :=
  texts.foldl (fun t text => (t.read kind text).2) t

theorem readAll_eq (t : Taxonomy) (kind : PluginKind) (texts : List String) :
    t.readAll kind texts = ((rowsOf texts).filterMap lineOf?).foldl (putLine kind) t := by
  unfold readAll rowsOf
  induction texts generalizing t with
  | nil => rfl
  | cons text texts ih =>
    rw [List.foldl_cons, ih, List.flatMap_cons, List.filterMap_append, List.foldl_append]
    rfl

theorem index_foldl (kind : PluginKind) (lines : List (List Char × List Char)) (t : Taxonomy) :
    (lines.foldl (putLine kind) t).index = t.index := by
  induction lines generalizing t with
  | nil => rfl
  | cons line lines ih => exact ih (t.putLine kind line)

theorem lookup_put (t : Taxonomy) (key category k : String) :
    (t.put key category).entries.lookup k =
      if k = key then some category else t.entries.lookup k := by
  unfold put
  rw [List.lookup_cons]
  by_cases hk : k = key
  · simp [hk]
  · have hne : (k == key) = false := beq_false_of_ne hk
    rw [hne, if_neg hk]
    dsimp only
    -- What is taken away for the new category is not under this key.
    induction t.entries with
    | nil => rfl
    | cons e entries ih =>
      obtain ⟨k', c⟩ := e
      rw [List.filter_cons]
      by_cases he : k' = key
      · have hother : (k == k') = false := by rw [he]; exact hne
        simp only [he, bne_self_eq_false, Bool.false_eq_true, if_false, ih]
        rw [List.lookup_cons, ← he, hother]
      · simp only [bne_iff_ne, ne_eq, he, not_false_eq_true, if_true, List.lookup_cons, ih]

theorem lookup_putLine (kind : PluginKind) (t : Taxonomy) (line : List Char × List Char)
    (k : String) :
    (t.putLine kind line).entries.lookup k =
      if k = keyFor kind (String.ofList line.1) then some (String.ofList line.2)
      else t.entries.lookup k := by
  unfold putLine
  exact lookup_put t _ _ k

/-- What is kept under a key is what the last line for the key gives. -/
theorem lookup_rows (kind : PluginKind) (index : Option SemanticIndex) (rows : List (List Char))
    (k : String) :
    let found := ((rows.filterMap lineOf?).foldl (putLine kind) (ofIndex index)).entries.lookup k
    (found = none ↔ NoneGives rows (keyFor kind · = k)) ∧
      ∀ category, found = some category ↔ LastGives rows (keyFor kind · = k) category := by
  -- Later lines replace what earlier ones gave, so the last line is taken off.
  induction rows using List.reverseRecOn with
  | nil =>
    refine ⟨?_, fun category => ?_⟩
    · simp [ofIndex, NoneGives]
    · simp [ofIndex, LastGives]
  | append_singleton rows row ih =>
    dsimp only at ih ⊢
    obtain ⟨hnone, hsome⟩ := ih
    rw [List.filterMap_append, List.foldl_append, noneGives_append, ← hnone]
    simp only [lastGives_snoc, ← hsome]
    generalize (rows.filterMap lineOf?).foldl (putLine kind) (ofIndex index) = t
    rcases hline : lineOf? row with _ | ⟨key, category⟩
    · have hrow : NoneGives [row] (keyFor kind · = k) := by
        rw [noneGives_singleton_iff]
        intro key category h
        exact absurd h (not_gives hline key category)
      rw [List.filterMap_cons_none hline]
      simp [hrow, not_gives hline]
    · have hgives := gives_iff_of_line hline
      rw [List.filterMap_cons_some hline, List.filterMap_nil, List.foldl_cons, List.foldl_nil,
        lookup_putLine, noneGives_singleton_iff]
      by_cases hk : k = keyFor kind (String.ofList key)
      · -- The last line is for the key, whatever stood there before.
        rw [if_pos hk]
        simp [hgives, hk, eq_comm]
      · rw [if_neg hk]
        simp [hgives, Ne.symm hk]

/-! ## Keys -/

/-- A key is the text of an identifier with the kind, the stem of the library and the label of
another one. -/
def Denotes (key : String) (id : Identifier) : Prop :=
  ∃ id', Identifier.ofText key = .ok id' ∧ id'.kind = id.kind ∧ id'.stem = id.stem ∧
    id'.label = id.label

/-- The canonical form of an identifier with a proper label comes back from its text. -/
theorem ofText_canonical {id : Identifier} (h : Identifier.ProperLabel id.label) :
    Identifier.ofText id.canonical.text = .ok id.canonical := by
  apply Identifier.ofText_text
  simpa only [Identifier.canonical] using h

theorem keyFor_vamp_iff {id : Identifier} (h : Identifier.ProperLabel id.label) (key : String) :
    keyFor .vamp key = id.canonical.text ↔ Denotes key id := by
  have hread := ofText_canonical h
  unfold keyFor Denotes
  rcases hkey : Identifier.ofText key with e | id'
  · -- A key that is no identifier is kept as it stands, but the other text can be read.
    constructor
    · intro htext
      dsimp only at htext
      rw [← htext, hkey] at hread
      cases hread
    · rintro ⟨_, hread', _⟩
      cases hread'
  · have hread' := ofText_canonical (Identifier.text_of_ofText hkey).2
    constructor
    · intro htext
      dsimp only at htext
      rw [htext, hread] at hread'
      have hsame := Except.ok.inj hread'
      simp only [Identifier.canonical, Identifier.mk.injEq] at hsame
      exact ⟨id', rfl, hsame.1.symm, hsame.2.1.symm, hsame.2.2.symm⟩
    · rintro ⟨_, ⟨rfl⟩, hkind, hstem, hlabel⟩
      simp only [Identifier.canonical, hkind, hstem, hlabel]

/-- The category that lines give a plugin. For an effect a line with its full text goes before one
with the text of its canonical form; for an analyser every line counts whose key denotes it. -/
def Listed (rows : List (List Char)) (id : Identifier) (category : String) : Prop :=
  match id.kind with
  | .ladspa => LastGives rows (· = id.text) category ∨
      NoneGives rows (· = id.text) ∧ LastGives rows (· = id.canonical.text) category
  | .vamp => LastGives rows (Denotes · id) category

theorem fromEntries_eq_some_iff (index : Option SemanticIndex) (texts : List String)
    {id : Identifier} (h : Identifier.ProperLabel id.label) (category : String) :
    ((ofIndex index).readAll id.kind texts).fromEntries id = some category ↔
      Listed (rowsOf texts) id category := by
  have hlookup := lookup_rows id.kind index (rowsOf texts)
  rw [← readAll_eq] at hlookup
  unfold fromEntries Listed
  cases hkind : id.kind with
  | ladspa =>
    rw [hkind] at hlookup
    obtain ⟨hnone, hfull⟩ := hlookup id.text
    obtain ⟨_, hcanonical⟩ := hlookup id.canonical.text
    simp only [keyFor] at hnone hfull hcanonical
    dsimp only
    rw [← hnone, ← hfull, ← hcanonical]
    cases (((ofIndex index).readAll .ladspa texts).entries.lookup id.text) <;> simp
  | vamp =>
    rw [hkind] at hlookup
    obtain ⟨_, hcanonical⟩ := hlookup id.canonical.text
    simp only [keyFor_vamp_iff h] at hcanonical
    exact hcanonical category

/-! ## The index -/

/-- What an index says of a plugin. An effect with a number is asked for by it, and every other
plugin, and one with a number that the index does not know, by its identifier. -/
inductive Says (index : SemanticIndex) (r : Record) (category : String) : Prop
  | ofNumber (n : Nat) (hkind : r.kind = .ladspa) (hid : r.uniqueId = .number n)
      (h : index.byNumber n = some category)
  | ofIdentifier (hunknown : ∀ n, r.kind = .ladspa → r.uniqueId = .number n →
      index.byNumber n = none) (h : index.byIdentifier r.identifier = some category)

/-- There is an index, and what it says of a plugin is not empty. -/
def Indexed (index : Option SemanticIndex) (r : Record) (category : String) : Prop :=
  category ≠ "" ∧ ∃ i, index = some i ∧ Says i r category

theorem says_iff (i : SemanticIndex) (r : Record) (category : String) :
    Says i r category ↔
      ((match r.kind, r.uniqueId with
        | .ladspa, .number n => i.byNumber n
        | _, _ => none).orElse fun _ => i.byIdentifier r.identifier) = some category := by
  constructor
  · rintro (⟨n, hkind, hid, h⟩ | ⟨hunknown, h⟩)
    · simp [hkind, hid, h]
    · cases hkind : r.kind <;> cases hid : r.uniqueId <;> simp_all
  · intro h
    split at h
    · next n hkind hid =>
      rcases hnumber : i.byNumber n with _ | c
      · rw [hnumber] at h
        refine .ofIdentifier (fun n' _ hid' => ?_) h
        rw [hid] at hid'
        cases hid'
        exact hnumber
      · rw [hnumber] at h
        cases h
        exact .ofNumber n hkind hid hnumber
    · next hother => exact .ofIdentifier (fun n hkind hid => absurd hid (hother n hkind)) h

theorem fromIndex_eq_some_iff (t : Taxonomy) (r : Record) (category : String) :
    t.fromIndex r = some category ↔ Indexed t.index r category := by
  unfold fromIndex Indexed
  rw [Option.bind_eq_some_iff]
  simp only [Option.filter_eq_some_iff]
  constructor
  · rintro ⟨i, hi, hsays, hne⟩
    exact ⟨by simpa using hne, i, hi, (says_iff i r category).mpr hsays⟩
  · rintro ⟨hne, i, hi, hsays⟩
    exact ⟨i, hi, (says_iff i r category).mp hsays, by simpa using hne⟩

/-! ## The law -/

/-- The category of a plugin by its sources: the index, the lines, the name. -/
inductive Categorised (index : Option SemanticIndex) (rows : List (List Char)) (r : Record) :
    String → Prop
  | indexed {category : String} (h : Indexed index r category) : Categorised index rows r category
  | listed {category : String} (hindex : ∀ c, ¬ Indexed index r c)
      (h : Listed rows r.identifier category) : Categorised index rows r category
  | wrapper (hindex : ∀ c, ¬ Indexed index r c) (hlines : ∀ c, ¬ Listed rows r.identifier c)
      (hkind : r.kind = .ladspa) (hname : " VST".toList <:+ r.name.toList) :
      Categorised index rows r "VST effects"
  | unknown (hindex : ∀ c, ¬ Indexed index r c) (hlines : ∀ c, ¬ Listed rows r.identifier c)
      (h : ¬ (r.kind = .ladspa ∧ " VST".toList <:+ r.name.toList)) : Categorised index rows r ""

theorem wraps_iff (r : Record) :
    wraps r = true ↔ r.kind = .ladspa ∧ " VST".toList <:+ r.name.toList := by
  simp [wraps]

/-- After any category texts were read for its kind, a plugin with a proper label has the category
that the first source gives which has one for it, and no other. -/
theorem a_category_comes_from_its_first_source (index : Option SemanticIndex)
    (texts : List String) (r : Record) (h : Identifier.ProperLabel r.identifier.label)
    (category : String) :
    ((ofIndex index).readAll r.kind texts).categoryOf r = category ↔
      Categorised index (rowsOf texts) r category := by
  have hindex := fromIndex_eq_some_iff ((ofIndex index).readAll r.kind texts) r
  have hlines : ∀ c, ((ofIndex index).readAll r.kind texts).fromEntries r.identifier = some c ↔
      Listed (rowsOf texts) r.identifier c := fromEntries_eq_some_iff index texts h
  have hsame : ((ofIndex index).readAll r.kind texts).index = index := by
    rw [readAll_eq, index_foldl]
    rfl
  rw [hsame] at hindex
  unfold categoryOf
  generalize ((ofIndex index).readAll r.kind texts) = t at *
  have hnoIndex : t.fromIndex r = none ↔ ∀ c, ¬ Indexed index r c := by
    rw [Option.eq_none_iff_forall_ne_some]
    simp only [ne_eq, hindex]
  have hnoLines : t.fromEntries r.identifier = none ↔
      ∀ c, ¬ Listed (rowsOf texts) r.identifier c := by
    rw [Option.eq_none_iff_forall_ne_some]
    simp only [ne_eq, hlines]
  constructor
  · rintro rfl
    rcases hfirst : t.fromIndex r with _ | c
    · rcases hsecond : t.fromEntries r.identifier with _ | c
      · by_cases hwraps : wraps r = true
        · dsimp only
          rw [if_pos hwraps]
          rw [wraps_iff] at hwraps
          exact .wrapper (hnoIndex.mp hfirst) (hnoLines.mp hsecond) hwraps.1 hwraps.2
        · dsimp only
          rw [if_neg hwraps]
          rw [wraps_iff] at hwraps
          exact .unknown (hnoIndex.mp hfirst) (hnoLines.mp hsecond) hwraps
      · exact .listed (hnoIndex.mp hfirst) ((hlines c).mp hsecond)
    · exact .indexed ((hindex c).mp hfirst)
  · intro hcategory
    cases hcategory with
    | indexed hc => rw [(hindex category).mpr hc]
    | listed hno hc => simp only [hnoIndex.mpr hno, (hlines category).mpr hc]
    | wrapper hno hnone hkind hname =>
      simp only [hnoIndex.mpr hno, hnoLines.mpr hnone, (wraps_iff r).mpr ⟨hkind, hname⟩, if_true]
      rfl
    | unknown hno hnone hwraps =>
      simp only [hnoIndex.mpr hno, hnoLines.mpr hnone]
      rw [if_neg (mt (wraps_iff r).mp hwraps)]

/-- An analyser in a directory of its user. -/
def ownOnsets : Record where
  identifier := ⟨.vamp, "/home/me/vamp/qm.so", "onsets"⟩
  uniqueId := .text "/home/me/vamp/qm.so:onsets"
  label := "onsets"
  name := "Onsets"
  maker := "me"
  copyright := ""
  description := ""
  version := none
  ports := []
  category := ""

/-- A later text speaks of the analyser in another directory, and its word is the last. -/
theorem another_directory_has_the_last_word :
    let texts := ["vamp:qm:onsets::Time\n",
      "vamp:/usr/lib/vamp/qm.so:onsets:: Time > Onsets \n:: none"]
    Identifier.ProperLabel ownOnsets.identifier.label ∧
      ((ofIndex none).readAll .vamp texts).categoryOf ownOnsets = "Time > Onsets" ∧
      Categorised none (rowsOf texts) ownOnsets "Time > Onsets" := by
  intro texts
  have hproper : Identifier.ProperLabel ownOnsets.identifier.label := by decide +kernel
  have hcategory : ((ofIndex none).readAll .vamp texts).categoryOf ownOnsets = "Time > Onsets" := by
    decide +kernel
  exact ⟨hproper, hcategory,
    (a_category_comes_from_its_first_source none texts ownOnsets hproper _).mp hcategory⟩

end Taxonomy

end AudioHost
