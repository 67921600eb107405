import AudioHost.Number.Decimal
import AudioHost.Shell.Syntax

/-!
Numbers with a point, written with a given number of places.
-/

namespace AudioHost.Shell.Figures

/-- A fraction that is not negative: `num / den`. -/
structure Ratio where
  num : Nat
  den : Nat
deriving DecidableEq, Repr

/-- The finite magnitude of a number. -/
def ratioOf (x : Double) : Ratio :=
  let m := x.magnitude
  ⟨m.significand <<< m.scale.toNat, 1 <<< (-m.scale).toNat⟩

/-- The ratio divided by a power of ten. -/
def Ratio.shift (r : Ratio) (power : Int) : Ratio :=
  ⟨r.num * Nat.pow 10 (-power).toNat, r.den * Nat.pow 10 power.toNat⟩

/-- The nearest whole number. -/
def Ratio.round (r : Ratio) : Nat := roundDiv r.num r.den .toEven

/-- Digits with a point before the last ones. -/
def withPoint (mark : Bool) (places : Nat) (n : Nat) : Chars :=
  let ds := (toString n).toList
  let ds := List.replicate (places + 1 - ds.length) '0' ++ ds
  let whole := ds.take (ds.length - places)
  if places = 0 then (if mark then whole ++ ['.'] else whole)
  else whole ++ '.' :: ds.drop (ds.length - places)

/-- A number with so many places after the point. -/
def fixed (mark : Bool) (places : Nat) (r : Ratio) : Chars :=
  withPoint mark places (r.shift (-places)).round

/-- The greatest power of ten that is not above a number. -/
def powerOf (r : Ratio) : Int :=
  let guess : Int := (toString r.num).length - (toString r.den).length
  let tried := r.shift guess
  if tried.num < tried.den then guess - 1 else guess

/-- The power of ten and the digits of a number with so many places after the first digit. -/
def scaled (places : Nat) (r : Ratio) : Int × Nat :=
  if r.num = 0 then (0, 0)
  else
    let power := powerOf r
    let n := (r.shift (power - places)).round
    if n < Nat.pow 10 (places + 1) then (power, n) else (power + 1, n / 10)

/-- The text of a power of ten. -/
def powerText (upper : Bool) (power : Int) : Chars :=
  let ds := (toString power.natAbs).toList
  (if upper then 'E' else 'e') :: (if power < 0 then '-' else '+') ::
    (if ds.length < 2 then '0' :: ds else ds)

/-- A number with one digit before the point and a power of ten. -/
def scientific (mark upper : Bool) (places : Nat) (r : Ratio) : Chars :=
  let (power, n) := scaled places r
  withPoint mark places n ++ powerText upper power

/-- Drops zeros at the end of the places after a point. -/
def dropZeros (cs : Chars) : Chars :=
  if !cs.contains '.' then cs
  else
    let cs := (cs.reverse.dropWhile (· = '0')).reverse
    if cs.getLast? = some '.' then cs.dropLast else cs

/-- A number with so many digits that count, in the shorter of the two ways. -/
def general (mark upper : Bool) (places : Nat) (r : Ratio) : Chars :=
  let count := max places 1
  let (power, n) := scaled (count - 1) r
  let trim (cs : Chars) : Chars := if mark then cs else dropZeros cs
  if -4 ≤ power && power < count then trim (fixed mark (count - 1 - power).toNat r)
  else trim (withPoint mark (count - 1) n) ++ powerText upper power

/-- The number in front of a text, and the rest. -/
def inFront? (cs : Chars) : Option (Double × Chars) :=
  let (negative, r) := match cs with
    | '-' :: r => (true, r)
    | '+' :: r => (false, r)
    | r => (false, r)
  let digits := r.takeWhile fun c => c.isDigit || c = '.'
  if !digits.any Char.isDigit then none
  else match Decimal.readUnsigned negative r with
    | some (s, rest) => some (s.value.toDouble, rest)
    | none => (Decimal.readUnsigned negative digits).map fun (s, _) =>
        (s.value.toDouble, r.drop digits.length)

/-- The text of a number without its sign. -/
def text (kind : Char) (mark : Bool) (places : Option Nat) (x : Double) : Chars :=
  let upper := kind.isUpper
  if x.isNaN then (if upper then "NAN" else "nan").toList
  else if !x.isFinite then (if upper then "INF" else "inf").toList
  else
    let r := ratioOf x
    let places := places.getD 6
    match kind.toLower with
    | 'f' => fixed mark places r
    | 'e' => scientific mark upper places r
    | _ => general mark upper places r

end AudioHost.Shell.Figures
