import AudioHost.Json.Value

/-!
Values of settings, and how typed values are taken from them.

There are two manners of taking a value. The exact one wants the very type. The lenient one also
reads numbers and truth values out of texts, counts truth values as numbers, and the like, since a
variable of the environment or a file may spell a value in several ways.
-/

namespace AudioHost

/-- A value of a setting. -/
inductive Setting where
  | missing
  | flag (b : Bool)
  | integer (n : Int)
  | real (x : Double)
  | text (s : String)
  | list (items : List Setting)
  | table (entries : List (String × Setting))
deriving Inhabited

namespace Setting

/-! ## Settings from JSON -/

mutual

/-- The setting that a JSON value stands for. -/
def ofJson : Json → Setting
  | .null => .missing
  | .bool b => .flag b
  | .integer n => .integer n
  | .single x => .real x.toDouble
  | .double x => .real x
  | .string s => .text s
  | .array items => .list (ofItems items)
  | .object fields => .table (ofFields fields)
  | .unfit => .missing

def ofItems : List Json → List Setting
  | [] => []
  | j :: js => ofJson j :: ofItems js

def ofFields : List (String × Json) → List (String × Setting)
  | [] => []
  | (name, j) :: fields => (name, ofJson j) :: ofFields fields

end

/-! ## Words -/

/-- A text in small letters. -/
def lowered (s : String) : String := String.ofList (s.toList.map Char.toLower)

/-- The truth value that a word stands for. -/
def switch? (s : String) : Option Bool :=
  if ["true", "on", "yes"].contains (lowered s) then some true
  else if ["false", "off", "no"].contains (lowered s) then some false
  else none

/-- A row of digits as a number. -/
def digits? (cs : List Char) : Option Nat :=
  if cs.isEmpty || !cs.all Char.isDigit then none else some (Decimal.naturalOf cs)

/-- Reads a whole number that may have a sign. -/
def integerOf? (s : String) : Option Int :=
  match s.toList with
  | '-' :: cs => (digits? cs).map fun n => -n
  | '+' :: cs => (digits? cs).map fun n => (n : Int)
  | cs => (digits? cs).map fun n => (n : Int)

/-- Reads a whole number that fits 64 bits with a sign. -/
def wordOf? (s : String) : Option Int :=
  (integerOf? s).filter fun n => decide (-0x8000000000000000 ≤ n ∧ n < 0x8000000000000000)

/-- Reads a number. -/
def realOf? (s : String) : Option Double := (Decimal.numeral? s).map (·.toDouble)

/-! ## Manners of reading -/

/-- How typed values are taken from settings. -/
structure Manner where
  /-- A list in the place of a table may have more values than the table has names. -/
  longLists : Bool
  text? : Setting → Option String
  flag? : Setting → Option Bool
  /-- A whole number of some bits, without sign. -/
  word? : Nat → Setting → Option Nat
  single? : Setting → Option Single

/-- The number itself, if it fits some bits. -/
def fitted? (bits : Nat) (n : Int) : Option Nat :=
  if 0 ≤ n ∧ n.toNat < 1 <<< bits then some n.toNat else none

/-- The 32-bit number nearest to a whole one. -/
def singleOf (n : Int) : Single := Decimal.toSingle ⟨decide (n < 0), n.natAbs, 0⟩

/-- The 64-bit number nearest to a whole one. -/
def doubleOf (n : Int) : Double := Decimal.toDouble ⟨decide (n < 0), n.natAbs, 0⟩

/-- The very type is wanted. -/
def Manner.exact : Manner where
  longLists := false
  text?
    | .text s => some s
    | _ => none
  flag?
    | .flag b => some b
    | _ => none
  word? bits
    | .integer n => fitted? bits n
    | _ => none
  single?
    | .integer n => some (singleOf n)
    | .real x => some x.toSingle
    | _ => none

/-- A number rounded to 64 bits without sign: halves go up, what is too large saturates, and
negatives and NaN give 0. -/
def roundedWord (x : Double) : Nat :=
  if x.isNaN || x.isNegative then 0
  else if !x.isFinite then 0xFFFFFFFFFFFFFFFF
  else
    let m := x.magnitude
    min 0xFFFFFFFFFFFFFFFF
      (roundDiv (m.significand <<< m.scale.toNat) (1 <<< (-m.scale).toNat) .awayFromZero)

/-- A whole number of 64 bits without sign, however it is spelled. -/
def spelledWord? : Setting → Option Nat
  | .integer n => fitted? 64 n
  | .real x => some (roundedWord x)
  | .flag b => some b.toNat
  | .text s => match switch? s with
    | some b => some b.toNat
    | none => match s.toList with
      | '-' :: _ => none
      | _ => (integerOf? s).bind (fitted? 64)
  | _ => none

/-- A truth value, however it is spelled. -/
def spelledFlag? : Setting → Option Bool
  | .flag b => some b
  | .integer n => some (n != 0)
  | .real x => some (x.magnitudeBits != 0)
  | .text s =>
    if s == "1" then some true else if s == "0" then some false else switch? s
  | _ => none

/-- A number, however it is spelled. -/
def spelledReal? : Setting → Option Double
  | .real x => some x
  | .integer n => some (doubleOf n)
  | .flag b => some (doubleOf b.toNat)
  | .text s => match switch? s with
    | some b => some (doubleOf b.toNat)
    | none => realOf? s
  | _ => none

/-- A text, or a scalar written as one. -/
def spelledText? : Setting → Option String
  | .text s => some s
  | .flag b => some (if b then "true" else "false")
  | .integer n => some (toString n)
  | .real x => some (NumberStyle.plain.double x)
  | _ => none

/-- Scalars are taken for one another. -/
def Manner.lenient : Manner where
  longLists := true
  text? := spelledText?
  flag? := spelledFlag?
  word? bits s := (spelledWord? s).filter (· < 1 <<< bits)
  single? s := (spelledReal? s).map Double.toSingle

end Setting

end AudioHost
