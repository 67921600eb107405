import AudioHost.Number.Binary

/-!
Whether values are better shown on a logarithmic scale.

The finite values are put in order and split in the middle. If the upper half is spread more than
ten times as widely as the lower half, a few large values dominate.
-/

namespace AudioHost.Grid

/-- The ratio of spreads above which a logarithmic scale is better. -/
def spreadRatio : Float := 10.0

/-- The finite values in ascending order, negative zero before zero. -/
def ranked (values : List Double) : List Double :=
  (values.filter Double.isFinite).mergeSort fun x y => decide (x.rank ≤ y.rank)

/-- The sum of machine numbers from left to right. -/
def sum (xs : List Float) : Float := xs.foldl (· + ·) 0

/-- The standard deviation of all of a population; of no values it is 0. -/
def deviation (xs : List Float) : Float :=
  if xs.isEmpty then 0
  else
    let n := xs.length.toFloat
    let mean := sum xs / n
    (sum (xs.map fun x => (x - mean) * (x - mean)) / n).sqrt

/-- The upper half of ordered values is spread much more widely than the lower half. -/
def widerAbove (values : List Double) : Bool :=
  let half := values.length / 2
  let lower := deviation ((values.take half).map Double.toMachine)
  let upper := deviation ((values.drop half).map Double.toMachine)
  if lower == 0 || upper == 0 then false else upper / lower > spreadRatio

/-- The values are better shown on a logarithmic scale. -/
def prefersLogScale (values : List Double) : Bool :=
  let finite := ranked values
  if finite.length < 2 then false else widerAbove finite

end AudioHost.Grid
