import AudioHost.Json.Value
import AudioHost.Plugin.Record

/-!
Records as JSON.

Writing keeps the order of the fields and leaves out an empty description and a missing version.
Reading takes an object with these fields in any order, or their values in a list in this order.
Unknown fields are passed over and a repeated field is refused.
-/

namespace AudioHost

namespace Schema

/-! ## Fields -/

/-- One field: its name, and what stands for it if it is missing. Fields that may be missing only
from an object are marked apart from those that may also be missing from a list. -/
structure Field where
  name : String
  missingInObject : Option Json
  missingInList : Option Json

/-- A field that must be there. -/
def required (name : String) : Field := ⟨name, none, none⟩

/-- A field that an object may leave out. -/
def omittable (name : String) : Field := ⟨name, some .null, none⟩

/-- A field with a default. -/
def withDefault (name : String) (d : Json) : Field := ⟨name, some d, some d⟩

/-- The values of the fields of an object. -/
def fromObject? (fields : List Field) (entries : List (String × Json)) : Option (List Json) :=
  fields.mapM fun field =>
    match entries.filter fun e => e.1 == field.name with
    | [] => field.missingInObject
    | [(_, j)] => some j
    | _ => none

/-- The values of the fields of a list. -/
def fromList? : List Field → List Json → Option (List Json)
  | [], [] => some []
  | [], _ :: _ => none
  | field :: fields, [] => do
    let j ← field.missingInList
    return j :: (← fromList? fields [])
  | _ :: fields, j :: js => (fromList? fields js).map (j :: ·)

/-- The values of the fields of a record, in the order of the fields. -/
def values? (fields : List Field) : Json → Option (List Json)
  | .object entries => fromObject? fields entries
  | .array items => fromList? fields items
  | _ => none

/-! ## Leaves -/

/-- A whole number of 64 bits without sign. -/
def word64? (j : Json) : Option Nat := j.natural?.filter (· < 0x10000000000000000)

/-- A whole number of 32 bits with sign. -/
def int32? (j : Json) : Option Int := j.integer?.filter fun n => -0x80000000 ≤ n ∧ n < 0x80000000

/-- A value that may be `null`. -/
def nullable? {α : Type} (read : Json → Option α) : Json → Option (Option α)
  | .null => some none
  | j => (read j).map some

/-- A word, alone or as the only field of an object that holds `null`. -/
def word? : Json → Option String
  | .string s => some s
  | .object [(s, .null)] => some s
  | _ => none

/-- A word from a list. -/
def choice? {α : Type} (choices : List (String × α)) (j : Json) : Option α :=
  (word? j).bind fun word => choices.lookup word

/-! ## Ports -/

def directions : List (String × Direction) := [("input", .input), ("output", .output)]

def signals : List (String × Signal) := [("audio", .audio), ("control", .control)]

/-- The word for a value in a list of words. -/
def wordFor {α : Type} [BEq α] (choices : List (String × α)) (a : α) : String :=
  ((choices.find? fun c => c.2 == a).map (·.1)).getD ""

def hintFields : List Field :=
  [required "toggled", required "integer", required "logarithmic", required "sample_rate"]

def hints? (j : Json) : Option PortHints := do
  match ← values? hintFields j with
  | [a, b, c, d] => return ⟨← a.bool?, ← b.bool?, ← c.bool?, ← d.bool?⟩
  | _ => none

def hints (h : PortHints) : Json :=
  .object [("toggled", .bool h.toggled), ("integer", .bool h.integer),
    ("logarithmic", .bool h.logarithmic), ("sample_rate", .bool h.sampleRate)]

/-- The policies that need no value. -/
def policies : List (String × DefaultPolicy) :=
  [("none", .none), ("minimum", .minimum), ("low", .low), ("middle", .middle), ("high", .high),
    ("maximum", .maximum), ("zero", .zero), ("one", .one), ("hundred", .hundred),
    ("four_forty", .fourForty)]

/-- A policy from its word and its value, if one stands beside it. -/
def policyOf? (word : String) (value : Option Json) : Option DefaultPolicy := do
  if word = "explicit" then return .explicit (← (← value).single?)
  else match value with
    | none => policies.lookup word
    | some .null => policies.lookup word
    | some _ => none

/-- A policy. In an object the value may be missing, in a list it may not, and there the word
stands alone. -/
def policy? : Json → Option DefaultPolicy
  | .object entries =>
    match entries.filter (fun e => e.1 == "policy"), entries.filter (fun e => e.1 == "value") with
    | [(_, tag)], [] => (word? tag).bind fun word => policyOf? word none
    | [(_, tag)], [(_, value)] => (word? tag).bind fun word => policyOf? word (some value)
    | _, _ => none
  | .array [.string word, value] => policyOf? word (some value)
  | _ => none

def policy : DefaultPolicy → Json
  | .explicit value => .object [("policy", .string "explicit"), ("value", .single value)]
  | p => .object [("policy", .string (wordFor policies p))]

def portFields : List Field :=
  [required "index", required "name", required "direction", required "kind", required "hints",
    omittable "lower_bound", omittable "upper_bound", required "default_policy",
    omittable "default_override"]

def port? (j : Json) : Option Port := do
  match ← values? portFields j with
  | [index, name, direction, signal, h, lower, upper, pol, given] =>
    return {
      index := ← word64? index
      name := ← name.string?
      direction := ← choice? directions direction
      signal := ← choice? signals signal
      hints := ← hints? h
      lower := ← nullable? Json.single? lower
      upper := ← nullable? Json.single? upper
      policy := ← policy? pol
      given := ← nullable? Json.single? given }
  | _ => none

def port (p : Port) : Json :=
  .object [("index", .natural p.index), ("name", .string p.name),
    ("direction", .string (wordFor directions p.direction)),
    ("kind", .string (wordFor signals p.signal)), ("hints", hints p.hints),
    ("lower_bound", .optional .single p.lower), ("upper_bound", .optional .single p.upper),
    ("default_policy", policy p.policy), ("default_override", .optional .single p.given)]

/-! ## Records -/

def identifier? (j : Json) : Option Identifier := do (Identifier.ofText (← j.string?)).toOption

def uniqueId? : Json → Option UniqueId
  | .string s => some (.text s)
  | j => (word64? j).map .number

def uniqueId : UniqueId → Json
  | .number n => .natural n
  | .text s => .string s

def recordFields : List Field :=
  [required "identifier", required "unique_id", required "label", required "name",
    required "maker", required "copyright", withDefault "description" (.string ""),
    withDefault "version" .null, required "ports", required "category"]

def record? (j : Json) : Option Record := do
  match ← values? recordFields j with
  | [id, uid, label, name, maker, copyright, description, version, ports, category] =>
    return {
      identifier := ← identifier? id
      uniqueId := ← uniqueId? uid
      label := ← label.string?
      name := ← name.string?
      maker := ← maker.string?
      copyright := ← copyright.string?
      description := ← description.string?
      version := ← nullable? int32? version
      ports := ← (← ports.array?).mapM port?
      category := ← category.string? }
  | _ => none

def record (r : Record) : Json :=
  let description :=
    if r.description.isEmpty then [] else [("description", .string r.description)]
  let version := match r.version with
    | some n => [("version", .integer n)]
    | none => []
  .object ([("identifier", .string r.identifier.text), ("unique_id", uniqueId r.uniqueId),
    ("label", .string r.label), ("name", .string r.name), ("maker", .string r.maker),
    ("copyright", .string r.copyright)] ++ description ++ version ++
    [("ports", .array (r.ports.map port)), ("category", .string r.category)])

end Schema

end AudioHost
