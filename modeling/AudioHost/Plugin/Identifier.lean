import AudioHost.Files.Path

/-!
Names of plugins.

An identifier says of which kind a plugin is, in which library it lies and under which label. Its
text joins the three with colons; since a label has none, the library may. Reading a text gives an
identifier back exactly when the text is that of an identifier with a proper label.
-/

namespace AudioHost

/-- The kinds of plugins. -/
inductive PluginKind where
  /-- Effects that work in real time. -/
  | ladspa
  /-- Analysers that extract features. -/
  | vamp
deriving DecidableEq, Repr, Inhabited

namespace PluginKind

/-- Every kind, in the order in which they are scanned. -/
def all : List PluginKind := [.ladspa, .vamp]

/-- The word for a kind. -/
def tag : PluginKind → String
  | .ladspa => "ladspa"
  | .vamp => "vamp"

/-- The kind that a word stands for. -/
def ofTag? (tag : String) : Option PluginKind := all.find? fun kind => kind.tag == tag

/-- The symbol that a library of a kind exports. -/
def symbol : PluginKind → String
  | .ladspa => "ladspa_descriptor"
  | .vamp => "vampGetPluginDescriptor"

end PluginKind

/-- What can be wrong with the text or the parts of an identifier. -/
inductive IdentifierError where
  | missingKind (text : String)
  | missingLabel (text : String)
  | emptyLabelIn (text : String)
  | unknownKind (tag : String)
  | emptyLabel
  | colonInLabel (label : String)
deriving DecidableEq, Repr

/-- What an error says. -/
def IdentifierError.message : IdentifierError → String
  | .missingKind text => s!"missing type in '{text}'"
  | .missingLabel text => s!"missing label in '{text}'"
  | .emptyLabelIn text => s!"empty label in '{text}'"
  | .unknownKind tag => s!"unknown plugin type '{tag}'"
  | .emptyLabel => "empty label"
  | .colonInLabel label => s!"label '{label}' contains ':'"

/-- The name of a plugin. -/
structure Identifier where
  kind : PluginKind
  library : String
  label : String
deriving DecidableEq, Repr, Inhabited

namespace Identifier

/-! ## Making identifiers -/

/-- An identifier whose label is proper: not empty and without a colon. -/
def checked (kind : PluginKind) (library label : String) : Except IdentifierError Identifier :=
  if label.isEmpty then .error .emptyLabel
  else if ':' ∈ label.toList then .error (.colonInLabel label)
  else .ok ⟨kind, library, label⟩

/-- The text of an identifier. -/
def text (id : Identifier) : String := s!"{id.kind.tag}:{id.library}:{id.label}"

/-- The kind that a word stands for, or an error. -/
def readKind (tag : String) : Except IdentifierError PluginKind :=
  match PluginKind.ofTag? tag with
  | some kind => .ok kind
  | none => .error (.unknownKind tag)

/-- Reads the text of an identifier. The kind ends at the first colon and the label starts after
the last one. -/
def ofText (s : String) : Except IdentifierError Identifier :=
  match Text.splitFirst? ':' s.toList with
  | none => .error (.missingKind s)
  | some (tag, rest) =>
    match Text.splitLast? ':' rest with
    | none => .error (.missingLabel s)
    | some (library, label) =>
      if label.isEmpty then .error (.emptyLabelIn s)
      else (readKind (String.ofList tag)).map fun kind =>
        ⟨kind, String.ofList library, String.ofList label⟩

/-! ## Stems -/

/-- The piece after the last slash or backslash. -/
def lastPiece (cs : List Char) : List Char :=
  (cs.reverse.takeWhile fun c => c ≠ '/' ∧ c ≠ '\\').reverse

/-- The name of a library file without directories and extension. -/
def stemOf (library : List Char) : List Char :=
  let piece := lastPiece library
  ((⟨String.ofList piece⟩ : Path).fileStem?).getD piece

/-- The stem of the library. -/
def stem (id : Identifier) : String := String.ofList (stemOf id.library.toList)

/-- The identifier with its library reduced to the stem, which holds wherever the library lies. -/
def canonical (id : Identifier) : Identifier := { id with library := id.stem }

/-! ## Order -/

/-- The order of kinds. -/
def kindRank : PluginKind → Nat
  | .ladspa => 0
  | .vamp => 1

/-- Identifiers are in the order of their kinds, then of their libraries, then of their labels. -/
def le (a b : Identifier) : Bool :=
  if a.kind ≠ b.kind then decide (kindRank a.kind ≤ kindRank b.kind)
  else if a.library ≠ b.library then decide (a.library ≤ b.library)
  else decide (a.label ≤ b.label)

/-- Identifiers in order. -/
def sort (ids : List Identifier) : List Identifier := ids.mergeSort le

end Identifier

end AudioHost
