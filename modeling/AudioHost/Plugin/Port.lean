import AudioHost.Number.Binary

/-!
Ports of a plugin, and the range of values that a port takes at a sample rate.
-/

namespace AudioHost

/-- The way data flows through a port. -/
inductive Direction where
  | input
  | output
deriving DecidableEq, Repr

/-- Whether a port carries samples or one value. -/
inductive Signal where
  | audio
  | control
deriving DecidableEq, Repr

/-- Hints on how the values of a port are meant. -/
structure PortHints where
  toggled : Bool
  integer : Bool
  logarithmic : Bool
  /-- Bounds and default are fractions of the sample rate. -/
  sampleRate : Bool
deriving DecidableEq, Repr

/-- How the default of a port is found from its bounds. -/
inductive DefaultPolicy where
  | none
  | minimum
  | low
  | middle
  | high
  | maximum
  | zero
  | one
  | hundred
  | fourForty
  | explicit (value : Single)
deriving DecidableEq, Repr

/-- One port, or one parameter, of a plugin. -/
structure Port where
  index : Nat
  name : String
  direction : Direction
  signal : Signal
  hints : PortHints
  lower : Option Single
  upper : Option Single
  policy : DefaultPolicy
  /-- A default that was given from elsewhere, kept within the bounds where it is used. -/
  given : Option Single
deriving DecidableEq, Repr

namespace Port

/-- The port is for a user to adjust: a control input. -/
def isParameter (p : Port) : Bool := p.signal = .control && p.direction = .input

/-! ## Bounds -/

/-- The lower bound before scaling. Without one it is 0, or one below the upper bound if that is
negative or small. -/
def rawMinimum (p : Port) : Single :=
  match p.lower, p.upper with
  | some lower, _ => lower
  | none, some upper => Single.min .zero (upper.sub .one)
  | none, none => .zero

/-- The upper bound before scaling; without one it is one above the lower bound. -/
def rawMaximum (p : Port) : Single :=
  match p.upper with
  | some upper => upper
  | none => (p.lower.getD .zero).add .one

/-- Scales a value by the sample rate if the port says so. -/
def scale (p : Port) (value rate : Single) : Single :=
  if p.hints.sampleRate then value.mul rate else value

/-- The lowest value at a sample rate. -/
def minimum (p : Port) (rate : Single) : Single := p.scale p.rawMinimum rate

/-- The highest value at a sample rate. -/
def maximum (p : Port) (rate : Single) : Single := p.scale p.rawMaximum rate

/-! ## Defaults -/

/-- A value between the bounds, the lower one weighted; on a logarithmic port with positive bounds
the logarithms are weighted. -/
def between (p : Port) (weight : Single) : Single :=
  let low := p.rawMinimum
  let high := p.rawMaximum
  let rest := Single.one.sub weight
  if p.hints.logarithmic && Single.zero.lt low && Single.zero.lt high then
    ((low.log10.mul weight).add (high.log10.mul rest)).tenTo
  else (low.mul weight).add (high.mul rest)

/-- A small constant. -/
def quarters (n : Nat) : Single := .ofMagnitude false (Shape.single.ofRatio n 4)

/-- A whole constant. -/
def whole (n : Nat) : Single := .ofMagnitude false (Shape.single.ofRatio n 1)

/-- The default before scaling. -/
def rawDefault (p : Port) : Single :=
  match p.policy with
  | .none => p.rawMinimum
  | .minimum => p.rawMinimum
  | .low => p.between (quarters 3)
  | .middle => p.between (quarters 2)
  | .high => p.between (quarters 1)
  | .maximum => p.rawMaximum
  | .zero => .zero
  | .one => .one
  | .hundred => whole 100
  | .fourForty => whole 440
  | .explicit value => value

/-- The default at a sample rate. A given default is kept within the bounds. -/
def default (p : Port) (rate : Single) : Single :=
  match p.given with
  | some value => (value.max (p.minimum rate)).min (p.maximum rate)
  | none => p.scale p.rawDefault rate

/-- The step between values; 0 if all values between the bounds are meant. -/
def step (p : Port) (rate : Single) : Single :=
  if p.hints.toggled then (p.maximum rate).round.sub (p.minimum rate).round
  else if p.hints.integer then .one
  else .zero

/-! ## Approximate defaults -/

/-- The default comes from a weighted mean of logarithms, or would if the bounds were positive. -/
def interpolates (p : Port) : Bool :=
  p.hints.logarithmic && p.given.isNone &&
    (p.policy = .low || p.policy = .middle || p.policy = .high)

end Port

end AudioHost
