import AudioHost.Number.Binary

/-!
Decimal numbers `± digits * 10 ^ exponent`, and their rounding to binary.
-/

namespace AudioHost

/-- A decimal number. The sign is kept apart, so that a negative zero is one. -/
structure Decimal where
  negative : Bool
  digits : Nat
  exponent : Int
deriving DecidableEq, Repr

namespace Decimal

/-- A whole number. -/
def ofInt (n : Int) : Decimal := ⟨decide (n < 0), n.natAbs, 0⟩

/-- The value of a digit character. -/
def digitValue (c : Char) : Nat := c.toNat - '0'.toNat

/-- The natural number that a row of digits spells. -/
def naturalOf (cs : List Char) : Nat := cs.foldl (fun n c => 10 * n + digitValue c) 0

/-- The digits of a natural number. -/
def digitsOf (n : Nat) : List Char := (toString n).toList

/-- The magnitude bits nearest to a decimal. Exponents far beyond every binary format are decided
without computing the power. -/
def magnitudeBits (s : Shape) (d : Decimal) : Nat :=
  if d.digits = 0 then 0
  else
    let top : Int := (digitsOf d.digits).length + d.exponent
    if 400 < top then s.infinity
    else if top < -400 then 0
    else s.ofRatio (d.digits * Nat.pow 10 d.exponent.toNat) (Nat.pow 10 (-d.exponent).toNat)

/-- The 32-bit number nearest to a decimal. -/
def toSingle (d : Decimal) : Single := .ofMagnitude d.negative (d.magnitudeBits .single)

/-- The 64-bit number nearest to a decimal. -/
def toDouble (d : Decimal) : Double := .ofMagnitude d.negative (d.magnitudeBits .double)

/-! ## Reading -/

/-- The characters of a decimal number: a whole part, a part after the point, a power of ten. -/
structure Spelling where
  negative : Bool
  whole : List Char
  point : Option (List Char)
  power : Option Int
deriving DecidableEq, Repr

/-- The number that a spelling stands for. -/
def Spelling.value (s : Spelling) : Decimal :=
  let fraction := s.point.getD []
  ⟨s.negative, naturalOf (s.whole ++ fraction), s.power.getD 0 - fraction.length⟩

/-- Splits off the digits in front. -/
def spanDigits (cs : List Char) : List Char × List Char := cs.span Char.isDigit

/-- Reads a power of ten after its mark: a sign, if any, and at least one digit. -/
def readPower : List Char → Option (Int × List Char)
  | '-' :: r => signed r true
  | '+' :: r => signed r false
  | r => signed r false
where
  signed (cs : List Char) (negative : Bool) : Option (Int × List Char) :=
    match spanDigits cs with
    | ([], _) => none
    | (ds, r) =>
      let n : Int := naturalOf ds
      some (if negative then -n else n, r)

/-- Reads a decimal number without sign and leaves the rest. The point and the power are taken if
they are there; neither part need have digits. -/
def readUnsigned (negative : Bool) (cs : List Char) : Option (Spelling × List Char) :=
  let (whole, r) := spanDigits cs
  let (point, r) := match r with
    | '.' :: r => let (f, r) := spanDigits r; (some f, r)
    | r => (none, r)
  match r with
  | c :: p =>
    if c = 'e' ∨ c = 'E' then
      (readPower p).map fun (n, r) => (⟨negative, whole, point, some n⟩, r)
    else some (⟨negative, whole, point, none⟩, r)
  | [] => some (⟨negative, whole, point, none⟩, [])

/-- What a text spells: a decimal, an infinity or a NaN. -/
inductive Numeral where
  | finite (d : Decimal)
  | infinite (negative : Bool)
  | notANumber (negative : Bool)
deriving DecidableEq, Repr

/-- Reads a whole text as a number: a sign, then digits with an optional point and power, or one of
the words `inf`, `infinity` and `nan` in any case. At least one digit is needed. -/
def numeral? (s : String) : Option Numeral :=
  let (negative, r) := match s.toList with
    | '-' :: r => (true, r)
    | '+' :: r => (false, r)
    | r => (false, r)
  let word := r.map Char.toLower
  if word = "inf".toList ∨ word = "infinity".toList then some (.infinite negative)
  else if word = "nan".toList then some (.notANumber negative)
  else match readUnsigned negative r with
    | some (sp, []) =>
      if (sp.whole ++ sp.point.getD []).isEmpty then none else some (.finite sp.value)
    | _ => none

namespace Numeral

/-- The nearest 32-bit number. -/
def toSingle : Numeral → Single
  | .finite d => d.toSingle
  | .infinite negative => .ofMagnitude negative Shape.single.infinity
  | .notANumber negative => .ofMagnitude negative Single.nan.magnitudeBits

/-- The nearest 64-bit number. -/
def toDouble : Numeral → Double
  | .finite d => d.toDouble
  | .infinite negative => .ofMagnitude negative Shape.double.infinity
  | .notANumber negative => .ofMagnitude negative Double.nan.magnitudeBits

end Numeral

end Decimal

end AudioHost
