import AudioHost.Json.Reader
import AudioHost.Settings.Value
import AudioHost.Text.Split

/-!
Truth values, numbers and times in TOML documents.
-/

namespace AudioHost.Toml

/-! ## Digits -/

/-- Removes the underscores of a number. Each must stand between two digits. -/
def dropMarks (isDigit : Char → Bool) : List Char → Option (List Char)
  | [] => some []
  | a :: '_' :: b :: cs =>
    if isDigit a && isDigit b then (dropMarks isDigit (b :: cs)).map (a :: ·) else none
  | '_' :: _ => none
  | a :: cs => if cs = ['_'] then none else (dropMarks isDigit cs).map (a :: ·)

/-- The characters are digits, and there is one. -/
def areDigits (isDigit : Char → Bool) (cs : List Char) : Bool := !cs.isEmpty && cs.all isDigit

/-- No zero stands in front of other digits. -/
def isPlainWhole (cs : List Char) : Bool :=
  areDigits Char.isDigit cs && (cs.length == 1 || cs.head? != some '0')

/-! ## Whole numbers -/

/-- A number that fits 64 bits with a sign. -/
def fitted? (n : Int) : Option Int :=
  if -0x8000000000000000 ≤ n ∧ n < 0x8000000000000000 then some n else none

/-- A digit below a base. -/
def isDigitBelow (base : Nat) (c : Char) : Bool :=
  ((Json.hexValue? c).map fun d => decide (d < base)).getD false

/-- The number that digits spell in a base. -/
def naturalIn (base : Nat) (cs : List Char) : Nat :=
  cs.foldl (fun n c => base * n + (Json.hexValue? c).getD 0) 0

/-- Reads the digits of a number in a base. -/
def based? (base : Nat) (cs : List Char) : Option Int :=
  let isDigit := isDigitBelow base
  (dropMarks isDigit cs).bind fun digits =>
    if areDigits isDigit digits then fitted? (naturalIn base digits) else none

/-- A sign in front, and the rest. -/
def signed : List Char → Bool × List Char
  | '-' :: cs => (true, cs)
  | '+' :: cs => (false, cs)
  | cs => (false, cs)

/-- Reads a whole number. -/
def integer? : List Char → Option Int
  | '0' :: 'x' :: cs => based? 16 cs
  | '0' :: 'o' :: cs => based? 8 cs
  | '0' :: 'b' :: cs => based? 2 cs
  | cs =>
    let (negative, cs) := signed cs
    (dropMarks Char.isDigit cs).bind fun digits =>
      if isPlainWhole digits then
        let n : Int := Decimal.naturalOf digits
        fitted? (if negative then -n else n)
      else none

/-! ## Other numbers -/

/-- The spelling is one of a number with a point or a power. -/
def isReal (s : Decimal.Spelling) : Bool :=
  isPlainWhole s.whole && (s.point.isSome || s.power.isSome) && s.point != some []

/-- Reads a number with a point or a power, or one of the words `inf` and `nan`. -/
def real? (cs : List Char) : Option Double :=
  let (negative, cs) := signed cs
  if cs = "inf".toList then some (Decimal.Numeral.infinite negative).toDouble
  else if cs = "nan".toList then some (Decimal.Numeral.notANumber negative).toDouble
  else
    (dropMarks Char.isDigit cs).bind fun plain =>
      match Decimal.readUnsigned negative plain with
      | some (s, []) =>
        let x := s.value.toDouble
        if isReal s && x.isFinite then some x else none
      | _ => none

/-! ## Times -/

/-- A row of exactly some digits. -/
def fixed? (count : Nat) (cs : List Char) : Option Nat :=
  if cs.length = count && cs.all Char.isDigit then some (Decimal.naturalOf cs) else none

/-- The year has a 29th of February. -/
def isLeap (year : Nat) : Bool := year % 4 == 0 && (year % 100 != 0 || year % 400 == 0)

/-- The number of days of a month. -/
def daysOf (year month : Nat) : Nat :=
  if month = 2 then if isLeap year then 29 else 28
  else if [4, 6, 9, 11].contains month then 30
  else 31

/-- The text of a date, if it is one. -/
def date? (cs : List Char) : Option (List Char) :=
  match Text.splitAll '-' cs with
  | [y, m, d] => do
    let year ← fixed? 4 y
    let month ← fixed? 2 m
    let day ← fixed? 2 d
    if 1 ≤ month ∧ month ≤ 12 ∧ 1 ≤ day ∧ day ≤ daysOf year month then some cs else none
  | _ => none

/-- The digits of a fraction of a second: nine at most, without zeros at their end, but one. -/
def fraction (cs : List Char) : List Char :=
  match ((cs.take 9).reverse.dropWhile (· = '0')).reverse with
  | [] => ['0']
  | digits => digits

/-- The text of seconds, which may have a fraction. -/
def seconds? (cs : List Char) : Option (List Char) :=
  match Text.splitFirst? '.' cs with
  | none => (fixed? 2 cs).bind fun n => if n ≤ 60 then some cs else none
  | some (whole, digits) => do
    let n ← fixed? 2 whole
    if n ≤ 60 ∧ areDigits Char.isDigit digits then some (whole ++ '.' :: fraction digits) else none

/-- The text of a time of the day, if it is one. Seconds may be missing. -/
def clock? (cs : List Char) : Option (List Char) :=
  match Text.splitAll ':' cs with
  | hour :: minute :: more => do
    let h ← fixed? 2 hour
    let m ← fixed? 2 minute
    let s ← match more with
      | [] => some []
      | [s] => (seconds? s).map (':' :: ·)
      | _ => none
    if h ≤ 23 ∧ m ≤ 59 then some (hour ++ ':' :: minute ++ s) else none
  | _ => none

/-- The text of the distance of a time from the standard one. No distance has a plus sign. -/
def offset? (cs : List Char) : Option (List Char) :=
  match cs with
  | [c] => if c = 'Z' || c = 'z' then some ['Z'] else none
  | mark :: rest => match Text.splitAll ':' rest with
    | [hour, minute] => do
      let h ← fixed? 2 hour
      let m ← fixed? 2 minute
      if (mark = '+' || mark = '-') && h ≤ 23 && m ≤ 59 then
        some ((if h = 0 ∧ m = 0 then '+' else mark) :: rest)
      else none
    | _ => none
  | [] => none

/-- The text of a time of the day with an offset, if it has one. -/
def clockAndOffset? (cs : List Char) : Option (List Char) :=
  let clock := cs.takeWhile fun c => c.isDigit || c == ':' || c == '.'
  let rest := cs.drop clock.length
  if rest.isEmpty then clock? clock
  else do return (← clock? clock) ++ (← offset? rest)

/-- The text of a date, a time of the day, or both. -/
def time? (cs : List Char) : Option (List Char) :=
  if (cs.drop 4).head? ≠ some '-' then clock? cs
  else match cs.drop 10 with
    | [] => date? cs
    | mark :: rest =>
      if ['T', 't', ' '].contains mark then
        do return (← date? (cs.take 10)) ++ 'T' :: (← clockAndOffset? rest)
      else none

/-! ## Words -/

/-- A character of a value without quotes. -/
def isWordChar (c : Char) : Bool := c.isAlphanum || ['+', '-', '_', '.', ':'].contains c

/-- The characters of a value without quotes. A blank may stand between a date and a time. -/
def spanWord (cs : List Char) : List Char × List Char :=
  let (word, rest) := cs.span isWordChar
  match rest with
  | ' ' :: c :: more =>
    if (date? word).isSome && c.isDigit then
      let (time, rest) := (c :: more).span isWordChar
      (word ++ ' ' :: time, rest)
    else (word, rest)
  | _ => (word, rest)

/-- The value of a word. -/
def word? (cs : List Char) : Option Setting :=
  if cs = "true".toList then some (.flag true)
  else if cs = "false".toList then some (.flag false)
  else
    ((integer? cs).map Setting.integer).orElse fun _ =>
      ((real? cs).map Setting.real).orElse fun _ =>
        (time? cs).map fun text => .text (String.ofList text)

end AudioHost.Toml
