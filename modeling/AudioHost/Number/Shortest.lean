import AudioHost.Number.Decimal

/-!
The fewest decimal digits that read back to a binary number.

The numbers that round to a value form an interval around it. For one digit, then two, and so on,
the two neighbours of the value on the grid with that many digits are tried; the first grid with a
neighbour inside the interval gives the digits, and of two hits the nearer one.
-/

namespace AudioHost

/-- A positive decimal `digits * 10 ^ exponent`. -/
structure Digits where
  digits : Nat
  exponent : Int
deriving DecidableEq, Repr

namespace Magnitude

/-- Compares `a * 10 ^ i` with `n * 2 ^ j`. -/
def compareScaled (a : Nat) (i : Int) (n : Nat) (j : Int) : Ordering :=
  compare ((a * Nat.pow 10 i.toNat) <<< (-j).toNat) ((n * Nat.pow 10 (-i).toNat) <<< j.toNat)

/-- The decimal lies among the reals that round to the value; the two ends do so exactly when the
significand is even. -/
def readsBack (x : Magnitude) (d : Digits) : Bool :=
  let low := if x.narrowBelow then 4 * x.significand - 1 else 4 * x.significand - 2
  let high := 4 * x.significand + 2
  let even := x.significand % 2 == 0
  let below := compareScaled d.digits d.exponent low (x.scale - 2)
  let above := compareScaled d.digits d.exponent high (x.scale - 2)
  (below == .gt || (even && below == .eq)) && (above == .lt || (even && above == .eq))

/-- The least `k` with the value below `10 ^ k`, found by stepping from an estimate. -/
def decimalOrder (x : Magnitude) : Int :=
  let estimate : Int := (x.significand.log2 + x.scale) * 30103 / 100000
  ((List.range 4).map fun (i : Nat) => estimate - 1 + i).find?
    (fun k => compareScaled 1 k x.significand x.scale == .gt) |>.getD (estimate + 3)

/-- The largest point of the grid `10 ^ exponent` that is not above the value. -/
def floorOn (x : Magnitude) (exponent : Int) : Nat :=
  (x.significand * Nat.pow 10 (-exponent).toNat) <<< x.scale.toNat
    / Nat.pow 10 exponent.toNat <<< (-x.scale).toNat

/-- The hit on one grid, if there is one. -/
def hitOn (x : Magnitude) (tie : Tie) (exponent : Int) : Option Digits :=
  let lower : Digits := ⟨x.floorOn exponent, exponent⟩
  let upper : Digits := ⟨x.floorOn exponent + 1, exponent⟩
  match x.readsBack lower, x.readsBack upper with
  | true, true =>
    match compareScaled (lower.digits + upper.digits) exponent (2 * x.significand) x.scale with
    | .gt => some lower
    | .lt => some upper
    | .eq => match tie with
      | .toEven => some (if lower.digits % 2 = 0 then lower else upper)
      | .awayFromZero => some upper
  | true, false => some lower
  | false, true => some upper
  | false, false => none

/-- Moves trailing zeros of the digits into the exponent. The first argument bounds how many. -/
def stripZeros : Nat → Digits → Digits
  | 0, d => d
  | n + 1, d =>
    if d.digits ≠ 0 ∧ d.digits % 10 = 0 then stripZeros n ⟨d.digits / 10, d.exponent + 1⟩ else d

/-- The exact decimal value. -/
def exact (x : Magnitude) : Digits :=
  ⟨(x.significand * Nat.pow 5 (-x.scale).toNat) <<< x.scale.toNat, -((-x.scale).toNat : Int)⟩

/-- The fewest digits that read back to a positive value, without trailing zeros. -/
def shortest (x : Magnitude) (tie : Tie) : Digits :=
  let k := x.decimalOrder
  let found := ((List.range 17).map fun (n : Nat) => k - 1 - n).findSome? (x.hitOn tie)
  stripZeros 20 (found.getD x.exact)

end Magnitude

end AudioHost
