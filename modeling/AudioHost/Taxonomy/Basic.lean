import AudioHost.Plugin.Record

/-!
Categories of plugins.

An index is asked first, then the entries read from category texts. An index may also give
defaults for ports.
-/

namespace AudioHost

/-- A source of knowledge about plugins. -/
structure SemanticIndex where
  /-- The category of an effect by its number. -/
  byNumber : Nat → Option String
  /-- The category of any plugin by its name. -/
  byIdentifier : Identifier → Option String
  /-- The default of a port of an effect, by the number of the effect and the index of the port. -/
  portDefault : Nat → Nat → Option Single

/-- What categories are found by. -/
structure Taxonomy where
  index : Option SemanticIndex
  /-- Categories by key, one for each key. -/
  entries : List (String × String)

namespace Taxonomy

/-- A taxonomy that knows nothing but an index. -/
def ofIndex (index : Option SemanticIndex) : Taxonomy := ⟨index, []⟩

/-! ## Reading category texts -/

/-- A line of a category text: its key and its category. The key ends at the first `::`. A line
without a key or a category does not count. -/
def lineOf? (line : List Char) : Option (List Char × List Char) :=
  match Text.splitAround? [':', ':'] (Text.trim line) with
  | none => none
  | some (key, rest) =>
    let category := Text.trim rest
    if key.isEmpty || category.isEmpty then none else some (key, category)

/-- The key under which a line for a kind is kept. Keys of analysers that are identifiers are
reduced to their stems. -/
def keyFor (kind : PluginKind) (key : String) : String :=
  match kind with
  | .ladspa => key
  | .vamp => match Identifier.ofText key with
    | .ok id => id.canonical.text
    | .error _ => key

/-- The lines of a category text that count. -/
def linesOf (text : String) : List (List Char × List Char) :=
  (Text.lines text.toList).filterMap lineOf?

/-- Gives a key a category. The last one given stays. -/
def put (t : Taxonomy) (key category : String) : Taxonomy :=
  { t with entries := (key, category) :: t.entries.filter fun e => e.1 != key }

/-- Keeps a line for a kind. -/
def putLine (kind : PluginKind) (t : Taxonomy) (line : List Char × List Char) : Taxonomy :=
  t.put (keyFor kind (String.ofList line.1)) (String.ofList line.2)

/-- Reads a category text for a kind, and says how many lines counted. -/
def read (t : Taxonomy) (kind : PluginKind) (text : String) : Nat × Taxonomy :=
  let lines := linesOf text
  (lines.length, lines.foldl (putLine kind) t)

/-! ## Finding categories -/

/-- The category that an index gives. Its answer for the number of an effect counts even if it is
empty, and an empty answer is none. -/
def fromIndex (t : Taxonomy) (r : Record) : Option String :=
  t.index.bind fun index =>
    let byNumber := match r.kind, r.uniqueId with
      | .ladspa, .number n => index.byNumber n
      | _, _ => none
    (byNumber.orElse fun _ => index.byIdentifier r.identifier).filter fun c => !c.isEmpty

/-- The category that category texts give. -/
def fromEntries (t : Taxonomy) (id : Identifier) : Option String :=
  match id.kind with
  | .ladspa =>
    (t.entries.lookup id.text).orElse fun _ => t.entries.lookup id.canonical.text
  | .vamp => t.entries.lookup id.canonical.text

/-- The category of effects that wrap others. -/
def wrapperCategory : String := "VST effects"

/-- The name is that of an effect that wraps another. -/
def wraps (r : Record) : Bool :=
  r.kind = .ladspa && " VST".toList.isSuffixOf r.name.toList

/-- The category of a plugin; empty if nothing names one. -/
def categoryOf (t : Taxonomy) (r : Record) : String :=
  match t.fromIndex r with
  | some c => c
  | none => match t.fromEntries r.identifier with
    | some c => c
    | none => if wraps r then wrapperCategory else ""

/-- A port with the default that an index gives, if it is one for a user to adjust. -/
def withDefault (index : SemanticIndex) (number : Nat) (p : Port) : Port :=
  if p.isParameter then
    match index.portDefault number p.index with
    | some value => { p with given := some value }
    | none => p
  else p

/-- A record with its category, and for an effect with the defaults of its ports. -/
def apply (t : Taxonomy) (r : Record) : Record :=
  let r := { r with category := t.categoryOf r }
  match r.kind, t.index, r.uniqueId with
  | .ladspa, some index, .number n => { r with ports := r.ports.map (withDefault index n) }
  | _, _, _ => r

end Taxonomy

end AudioHost
