import AudioHost.Shell.Pattern

/-!
Whole numbers in scripts. They are kept in 64 bits with a sign.
-/

namespace AudioHost.Shell.Number

/-- The number of values. -/
def span : Nat := 0x10000000000000000

/-- The number that has the same 64 bits. -/
def wrap (n : Int) : Int := Int.bmod n span

/-- The nearest number that there is. -/
def clamp (n : Int) : Int := max (-0x8000000000000000) (min n 0x7FFFFFFFFFFFFFFF)

/-- The bits of a number. -/
def bits (n : Int) : Nat := (n % span).toNat

/-- The value of a digit. -/
def digit? (base : Nat) (c : Char) : Option Nat :=
  let value :=
    if c.isDigit then c.toNat - '0'.toNat
    else if 'a' ≤ c && c ≤ 'z' then c.toNat - 'a'.toNat + 10
    else if 'A' ≤ c && c ≤ 'Z' then c.toNat - 'A'.toNat + 10
    else 99
  if value < base then some value else none

/-- The digits in front. -/
def digitsInFront (base : Nat) (cs : Chars) : Chars :=
  cs.takeWhile fun c => (digit? base c).isSome

/-- The value of digits. -/
def natural (base : Nat) (cs : Chars) : Nat :=
  cs.foldl (fun n c => base * n + (digit? base c).getD 0) 0

/-- The base of a number without a sign, and its digits with what follows. -/
def baseOf (anyBase : Bool) (cs : Chars) : Nat × Chars :=
  let marked (base : Nat) (rest : Chars) : Nat × Chars :=
    if (digitsInFront base rest).isEmpty then (8, cs) else (base, rest)
  match anyBase, cs with
  | true, '0' :: 'x' :: rest => marked 16 rest
  | true, '0' :: 'X' :: rest => marked 16 rest
  | true, '0' :: 'b' :: rest => marked 2 rest
  | true, '0' :: 'B' :: rest => marked 2 rest
  | true, '0' :: _ => (8, cs)
  | _, _ => (10, cs)

/-- Reads the number in front, after gaps: its value, whether it fits, and the rest. -/
def inFront? (anyBase : Bool) (cs : Chars) : Option (Int × Bool × Chars) :=
  let cs := cs.dropWhile Pattern.isGap
  let (negative, unsigned) := match cs with
    | '-' :: rest => (true, rest)
    | '+' :: rest => (false, rest)
    | rest => (false, rest)
  let (base, rest) := baseOf anyBase unsigned
  let ds := digitsInFront base rest
  if ds.isEmpty then none
  else
    let n : Int := if negative then -natural base ds else natural base ds
    some (clamp n, clamp n = n, rest.drop ds.length)

/-- The number that a whole text is, gaps around it apart. -/
def ofText? (anyBase : Bool) (cs : Chars) : Option Int :=
  match inFront? anyBase cs with
  | some (n, true, rest) => if rest.all Pattern.isGap then some n else none
  | some (_, false, _) => none
  | none => if anyBase && cs.all Pattern.isGap then some 0 else none

/-- The number that a text of digits is. -/
def ofDigits? (cs : Chars) : Option Nat :=
  if cs.isEmpty || !cs.all Char.isDigit then none
  else
    let n := natural 10 cs
    if n < 0x80000000 then some n else none

/-- A number in digits. -/
def text (n : Int) : Chars := (toString n).toList

end AudioHost.Shell.Number
