import AudioHost.Json.Value

/-!
The values of numbers in JSON texts.

A number without point and power that fits 64 bits is read exactly. Any other one is read fast: as
many digits as fit 64 bits are taken, the others only move the point, and the result is scaled by
powers of ten, each step rounding. So it may miss the nearest 64-bit number by a little.
-/

namespace AudioHost.Json

/-! ## Digits -/

/-- Digits that were taken, as one natural number below `2 ^ 64`, and how many they were. -/
structure Taken where
  value : Nat
  count : Nat
deriving DecidableEq, Repr

/-- Takes digits after a value while all of them together fit 64 bits. -/
def take (value : Nat) : List Char → Taken
  | [] => ⟨value, 0⟩
  | d :: ds =>
    let longer := 10 * value + Decimal.digitValue d
    if longer < 0x10000000000000000 then
      let taken := take longer ds
      ⟨taken.value, taken.count + 1⟩
    else ⟨value, 0⟩

/-! ## Scaling -/

/-- The 64-bit number nearest to a power of ten. -/
def tenTo (n : Nat) : Double := (⟨false, 1, n⟩ : Decimal).toDouble

/-- The largest power of ten that is a 64-bit number. -/
def largestPower : Nat := 308

/-- Divides by a power of ten, in steps if it is a large one. -/
def scaleDown (x : Double) (n : Nat) : Double :=
  if _h : n ≤ largestPower then x.div (tenTo n)
  else if x.magnitudeBits = 0 then x
  else scaleDown (x.div (tenTo largestPower)) (n - largestPower)
termination_by n
decreasing_by simp only [largestPower] at *; omega

/-- Multiplies by a power of ten, if the result is finite. -/
def scaleUp? (x : Double) (n : Nat) : Option Double :=
  if n ≤ largestPower then (some (x.mul (tenTo n))).filter Double.isFinite
  else if x.magnitudeBits = 0 then some x
  else none

/-- A value times a power of ten. -/
def scaled? (value : Nat) (power : Int) : Option Double :=
  let x := (Decimal.ofInt value).toDouble
  if power < 0 then some (scaleDown x power.natAbs) else scaleUp? x power.toNat

/-! ## Numbers -/

/-- The value of a number that is read fast. A power of ten that does not fit 32 bits gives zero,
or nothing if it makes the number larger. -/
def approximate? (s : Decimal.Spelling) : Option Double :=
  let whole := take 0 s.whole
  let all := take whole.value (s.point.getD [])
  let shift : Int := s.whole.length - whole.count - all.count
  let power := s.power.getD 0
  let magnitude :=
    if power.natAbs < 0x80000000 then scaled? all.value (shift + power)
    else if all.value = 0 ∨ power < 0 then some .zero
    else none
  magnitude.map fun x => .ofMagnitude s.negative x.magnitudeBits

/-- A whole number that fits 64 bits, signed or not. -/
def fitsWord (n : Int) : Bool := decide (-0x8000000000000000 ≤ n ∧ n < 0x10000000000000000)

/-- The digits of a whole part: no zero stands in front of others. -/
def isWholePart : List Char → Bool
  | [] => false
  | ['0'] => true
  | d :: _ => d != '0'

/-- The number that a spelling stands for, if it is one of JSON's: a point or power has digits. -/
def numberOf? (s : Decimal.Spelling) : Option Json :=
  if !isWholePart s.whole || s.point == some [] then none
  else
    let plain := s.point.isNone && s.power.isNone
    let n : Int := Decimal.naturalOf s.whole
    let signed := if s.negative then -n else n
    if plain && fitsWord signed && !(s.negative && n == 0) then some (.integer signed)
    else some ((approximate? s).elim .unfit .double)

/-- Reads a number. -/
def number? (cs : List Char) : Option (Json × List Char) :=
  let (negative, r) := match cs with
    | '-' :: r => (true, r)
    | r => (false, r)
  match Decimal.readUnsigned negative r with
  | some (s, rest) => (numberOf? s).map fun j => (j, rest)
  | none => none

end AudioHost.Json
