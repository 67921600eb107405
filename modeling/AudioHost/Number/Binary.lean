/-!
Binary floating-point numbers, kept as bit patterns.

A number is its bits, so two NaNs with different payloads and the two zeros stay apart wherever
values are compared for identity. `Single` and `Double` are the two sizes in use; `Shape` says how
wide their fields are, and what is common to both is written once over a shape.
-/

namespace AudioHost

/-! ## Shapes -/

/-- The widths of the fraction and exponent fields of a binary format. -/
structure Shape where
  fraction : Nat
  exponent : Nat
deriving DecidableEq, Repr

namespace Shape

/-- The shape of a 32-bit number. -/
def single : Shape := ⟨23, 8⟩

/-- The shape of a 64-bit number. -/
def double : Shape := ⟨52, 11⟩

/-- The largest exponent field, which marks infinities and NaNs. -/
def topExponent (s : Shape) : Nat := 1 <<< s.exponent - 1

/-- The bits of positive infinity; a magnitude above them is a NaN. -/
def infinity (s : Shape) : Nat := s.topExponent <<< s.fraction

/-- The bit that holds the sign. -/
def signBit (s : Shape) : Nat := 1 <<< (s.fraction + s.exponent)

/-- The power of two that the last bit of the smallest numbers stands for. -/
def lowestScale (s : Shape) : Int := 2 - (1 <<< (s.exponent - 1) : Nat) - s.fraction

end Shape

/-- A finite magnitude `significand * 2 ^ scale`. -/
structure Magnitude where
  significand : Nat
  scale : Int
  /-- The gap to the next smaller number is half the gap to the next larger one. -/
  narrowBelow : Bool
deriving DecidableEq, Repr

namespace Shape

/-- Reads the magnitude bits of a finite number. -/
def magnitude (s : Shape) (bits : Nat) : Magnitude :=
  let e := bits >>> s.fraction
  let f := bits % 1 <<< s.fraction
  if e = 0 then ⟨f, s.lowestScale, false⟩
  else ⟨1 <<< s.fraction + f, s.lowestScale + (e - 1), decide (f = 0 ∧ 1 < e)⟩

end Shape

/-! ## Rounding -/

/-- Where a value halfway between two neighbours goes. -/
inductive Tie where
  | toEven
  | awayFromZero
deriving DecidableEq, Repr

/-- The quotient of two naturals, rounded to nearest. -/
def roundDiv (num den : Nat) (tie : Tie) : Nat :=
  let q := num / den
  let twice := 2 * (num % den)
  if twice < den then q
  else if den < twice then q + 1
  else match tie with
    | .toEven => q + q % 2
    | .awayFromZero => q + 1

namespace Shape

/-- The greatest `k` with `2 ^ k ≤ num / den`, for positive `num` and `den`. -/
def binaryOrder (num den : Nat) : Int :=
  let k : Int := num.log2 - den.log2
  if num <<< (-k).toNat < den <<< k.toNat then k - 1 else k

/-- The magnitude bits nearest to `num / den`, ties to even, infinity if it is too large. -/
def ofRatio (s : Shape) (num den : Nat) : Nat :=
  if num = 0 ∨ den = 0 then 0
  else
    let q := max s.lowestScale (binaryOrder num den - s.fraction)
    let m := roundDiv (num <<< (-q).toNat) (den <<< q.toNat) .toEven
    min s.infinity ((q - s.lowestScale).toNat <<< s.fraction + m)

end Shape

/-! ## The two sizes -/

/-- A 32-bit floating-point number. -/
structure Single where
  bits : UInt32
deriving DecidableEq, Repr, Inhabited

/-- A 64-bit floating-point number. -/
structure Double where
  bits : UInt64
deriving DecidableEq, Repr, Inhabited

namespace Single

/-- Positive zero. -/
def zero : Single := ⟨0⟩

/-- The number one. -/
def one : Single := ⟨0x3F800000⟩

/-- The NaN that stands for all of them where no payload is given. -/
def nan : Single := ⟨0x7FC00000⟩

/-- The bits without the sign. -/
def magnitudeBits (x : Single) : Nat := x.bits.toNat % 0x80000000

/-- The sign bit is set. -/
def isNegative (x : Single) : Bool := decide (0x80000000 ≤ x.bits.toNat)

/-- Neither an infinity nor a NaN. -/
def isFinite (x : Single) : Bool := decide (x.magnitudeBits < Shape.single.infinity)

/-- Not a number. -/
def isNaN (x : Single) : Bool := decide (Shape.single.infinity < x.magnitudeBits)

/-- The place of a number on the line; both zeros stand at 0. NaNs have no place that counts. -/
def place (x : Single) : Int := if x.isNegative then -x.magnitudeBits else x.magnitudeBits

/-- Numeric comparison: false whenever a NaN takes part. -/
def lt (x y : Single) : Bool := !x.isNaN && !y.isNaN && decide (x.place < y.place)

/-- Numeric equality: the zeros are equal and a NaN equals nothing. -/
def eq (x y : Single) : Bool := !x.isNaN && !y.isNaN && decide (x.place = y.place)

/-- A sign and magnitude bits put together. -/
def ofMagnitude (negative : Bool) (magnitude : Nat) : Single :=
  ⟨UInt32.ofNat (if negative then 0x80000000 + magnitude else magnitude)⟩

/-- The exact value of a finite number, as a sign and a magnitude. -/
def magnitude (x : Single) : Magnitude := Shape.single.magnitude x.magnitudeBits

/-! ### Arithmetic -/

/-- The machine number with these bits. -/
def toMachine (x : Single) : Float32 := Float32.ofBits x.bits

/-- The bits of a machine number. -/
def ofMachine (x : Float32) : Single := ⟨x.toBits⟩

def add (x y : Single) : Single := ofMachine (x.toMachine + y.toMachine)
def sub (x y : Single) : Single := ofMachine (x.toMachine - y.toMachine)
def mul (x y : Single) : Single := ofMachine (x.toMachine * y.toMachine)

/-- The absolute value: the sign bit is cleared, also of a NaN. -/
def abs (x : Single) : Single := ofMagnitude false x.magnitudeBits

/-- Rounds to the nearest integer, halves away from zero. -/
def round (x : Single) : Single := ofMachine x.toMachine.round

/-- Ten to a power. -/
def tenTo (x : Single) : Single := ofMachine (Float32.pow 10 x.toMachine)

/-- The decimal logarithm. -/
def log10 (x : Single) : Single := ofMachine x.toMachine.log10

/-- The larger number; a NaN gives way to the other operand. -/
def max (x y : Single) : Single :=
  if x.isNaN then y else if y.isNaN then x else if x.lt y then y else x

/-- The smaller number; a NaN gives way to the other operand. -/
def min (x y : Single) : Single :=
  if x.isNaN then y else if y.isNaN then x else if y.lt x then y else x

/-- Truncates toward zero into 64 bits. What is too large gives the largest number, and negatives
and NaN give 0. -/
def toUInt64 (x : Single) : UInt64 :=
  if x.isNaN || x.isNegative then 0
  else if !x.isFinite then UInt64.ofNat 0xFFFFFFFFFFFFFFFF
  else
    let m := x.magnitude
    let whole := m.significand <<< m.scale.toNat >>> (-m.scale).toNat
    UInt64.ofNat (Nat.min whole 0xFFFFFFFFFFFFFFFF)

end Single

namespace Double

/-- Positive zero. -/
def zero : Double := ⟨0⟩

/-- The NaN that stands for all of them where no payload is given. -/
def nan : Double := ⟨0x7FF8000000000000⟩

/-- The bits without the sign. -/
def magnitudeBits (x : Double) : Nat := x.bits.toNat % 0x8000000000000000

/-- The sign bit is set. -/
def isNegative (x : Double) : Bool := decide (0x8000000000000000 ≤ x.bits.toNat)

/-- Neither an infinity nor a NaN. -/
def isFinite (x : Double) : Bool := decide (x.magnitudeBits < Shape.double.infinity)

/-- Not a number. -/
def isNaN (x : Double) : Bool := decide (Shape.double.infinity < x.magnitudeBits)

/-- The place of a number in the total order of bit patterns: negatives below positives, and
negative zero just below positive zero. -/
def rank (x : Double) : Int := if x.isNegative then -x.magnitudeBits - 1 else x.magnitudeBits

/-- A sign and magnitude bits put together. -/
def ofMagnitude (negative : Bool) (magnitude : Nat) : Double :=
  ⟨UInt64.ofNat (if negative then 0x8000000000000000 + magnitude else magnitude)⟩

/-- The exact value of a finite number, as a magnitude. -/
def magnitude (x : Double) : Magnitude := Shape.double.magnitude x.magnitudeBits

/-- The machine number with these bits. -/
def toMachine (x : Double) : Float := Float.ofBits x.bits

/-- The bits of a machine number. -/
def ofMachine (x : Float) : Double := ⟨x.toBits⟩

def mul (x y : Double) : Double := ofMachine (x.toMachine * y.toMachine)
def div (x y : Double) : Double := ofMachine (x.toMachine / y.toMachine)

/-- Rounds to the nearest 32-bit number, ties to even. A NaN keeps its sign and leading payload. -/
def toSingle (x : Double) : Single :=
  if x.isNaN then
    .ofMagnitude x.isNegative (Shape.single.infinity + 0x400000 + x.magnitudeBits >>> 29 % 0x400000)
  else if x.isFinite then
    let m := x.magnitude
    .ofMagnitude x.isNegative
      (Shape.single.ofRatio (m.significand <<< m.scale.toNat) (1 <<< (-m.scale).toNat))
  else .ofMagnitude x.isNegative Shape.single.infinity

end Double

/-- Every 32-bit number is also a 64-bit number. -/
def Single.toDouble (x : Single) : Double :=
  if x.isNaN then
    .ofMagnitude x.isNegative
      (Shape.double.infinity + 0x8000000000000 + (x.magnitudeBits % 0x400000) <<< 29)
  else if x.isFinite then
    let m := x.magnitude
    .ofMagnitude x.isNegative
      (Shape.double.ofRatio (m.significand <<< m.scale.toNat) (1 <<< (-m.scale).toNat))
  else .ofMagnitude x.isNegative Shape.double.infinity

end AudioHost
