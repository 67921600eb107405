import AudioHost.Number.Shortest

/-!
How numbers are written. `NumberStyle` holds the decisions of one output format; `text`
applies them to the fewest digits that read back.
-/

namespace AudioHost

/-- The decisions of a format for binary numbers. -/
structure NumberStyle where
  /-- The decimal exponents of the leading digit that are written without a power of ten; all of
  them if none is given. -/
  positional : Option (Int × Int)
  /-- Whole values end in `.0`. -/
  pointZero : Bool
  /-- A power of ten that is not negative has a plus sign. -/
  plusPower : Bool
  tie : Tie
  nan : String
  infinity : String
deriving Repr

namespace NumberStyle

/-- Digits in front of the point, after it, and the zeros that a distant point needs. -/
def positionalText (style : NumberStyle) (digits : List Char) (exponent : Int) : List Char :=
  let tail := if style.pointZero then ".0".toList else []
  let point : Int := digits.length + exponent
  if 0 ≤ exponent then digits ++ List.replicate exponent.toNat '0' ++ tail
  else if 0 < point then digits.take point.toNat ++ '.' :: digits.drop point.toNat
  else '0' :: '.' :: (List.replicate (-point).toNat '0' ++ digits)

/-- One digit in front of the point and a power of ten behind. -/
def scientificText (style : NumberStyle) (digits : List Char) (exponent : Int) : List Char :=
  let power : Int := digits.length + exponent - 1
  let sign := if power < 0 then ['-'] else if style.plusPower then ['+'] else []
  let fraction := match digits.drop 1 with
    | [] => []
    | ds => '.' :: ds
  digits.take 1 ++ fraction ++ 'e' :: sign ++ Decimal.digitsOf power.natAbs

/-- The text of digits times a power of ten. -/
def digitsText (style : NumberStyle) (digits : List Char) (exponent : Int) : List Char :=
  let lead : Int := digits.length + exponent - 1
  match style.positional with
  | none => style.positionalText digits exponent
  | some (low, high) =>
    if low ≤ lead ∧ lead ≤ high then style.positionalText digits exponent
    else style.scientificText digits exponent

/-- The text of a decimal. -/
def decimalText (style : NumberStyle) (d : Decimal) : String :=
  let sign := if d.negative then ['-'] else []
  let tail := if style.pointZero then ".0".toList else []
  if d.digits = 0 then String.ofList (sign ++ '0' :: tail)
  else String.ofList (sign ++ style.digitsText (Decimal.digitsOf d.digits) d.exponent)

/-- The decimal by which a finite number is written. -/
def decimalOf (style : NumberStyle) (s : Shape) (negative : Bool) (bits : Nat) : Decimal :=
  if bits = 0 then ⟨negative, 0, 0⟩
  else
    let d := (s.magnitude bits).shortest style.tie
    ⟨negative, d.digits, d.exponent⟩

/-- The text of a number given by its sign and magnitude bits. -/
def text (style : NumberStyle) (s : Shape) (negative : Bool) (bits : Nat) : String :=
  if s.infinity < bits then style.nan
  else if bits = s.infinity then (if negative then "-" else "") ++ style.infinity
  else style.decimalText (style.decimalOf s negative bits)

/-- The text of a 32-bit number. -/
def single (style : NumberStyle) (x : Single) : String :=
  style.text .single x.isNegative x.magnitudeBits

/-- The text of a 64-bit number. -/
def double (style : NumberStyle) (x : Double) : String :=
  style.text .double x.isNegative x.magnitudeBits

/-- Numbers in exported texts and tables: never a power of ten, no point in whole values, and a tie
between two shortest spellings goes up. -/
def plain : NumberStyle := ⟨none, false, false, .awayFromZero, "NaN", "inf"⟩

/-- Numbers in JSON texts: a point in all that is written without a power of ten, which is what
lies between `10 ^ -6` and `10 ^ 13`. -/
def json : NumberStyle := ⟨some (-6, 12), true, true, .toEven, "null", "null"⟩

end NumberStyle

end AudioHost
