import AudioHost.Number.Style

/-!
JSON values.

An object keeps its fields in order, repeated names included. A number is an integer if it is
written without point and power and fits 64 bits; any other number is a binary one. A text may
spell something that no value stands for; that does no harm until it is looked at.
-/

namespace AudioHost

inductive Json where
  | null
  | bool (b : Bool)
  | integer (n : Int)
  | single (x : Single)
  | double (x : Double)
  | string (s : String)
  | array (items : List Json)
  | object (fields : List (String × Json))
  /-- Well written, but nothing: a number out of range, half of a character in a text or a name. -/
  | unfit
deriving Inhabited

namespace Json

/-! ## Making values -/

/-- A natural number. -/
def natural (n : Nat) : Json := .integer n

/-- A list of strings. -/
def strings (ss : List String) : Json := .array (ss.map .string)

/-- A value that may be missing. -/
def optional {α : Type} (f : α → Json) : Option α → Json
  | some a => f a
  | none => .null

/-! ## Taking values apart -/

def bool? : Json → Option Bool
  | .bool b => some b
  | _ => none

def integer? : Json → Option Int
  | .integer n => some n
  | _ => none

/-- A whole number that is not negative. -/
def natural? : Json → Option Nat
  | .integer (.ofNat n) => some n
  | _ => none

def string? : Json → Option String
  | .string s => some s
  | _ => none

def array? : Json → Option (List Json)
  | .array items => some items
  | _ => none

def object? : Json → Option (List (String × Json))
  | .object fields => some fields
  | _ => none

/-- Any number, as a 64-bit one. -/
def double? : Json → Option Double
  | .integer n => some (Decimal.ofInt n).toDouble
  | .single x => some x.toDouble
  | .double x => some x
  | _ => none

/-- Any number, as a 32-bit one. A whole number is rounded at once. -/
def single? : Json → Option Single
  | .integer n => some (Decimal.ofInt n).toSingle
  | .single x => some x
  | .double x => some x.toSingle
  | _ => none

/-- The value of a field; the last one of a repeated name. -/
def field? (j : Json) (name : String) : Option Json :=
  (j.object?.getD []).reverse.lookup name

/-- The value of a field that is there and not `null`. -/
def present? (j : Json) (name : String) : Option Json :=
  match j.field? name with
  | some .null => none
  | other => other

end Json

end AudioHost
