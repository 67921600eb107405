import AudioHost.Shell.Figures
import AudioHost.Shell.Number

/-!
What the commands `echo` and `printf` write.
-/

namespace AudioHost.Shell

/-! ## Escapes -/

/-- A character is an octal digit. -/
def isOctal (c : Char) : Bool := '0' ≤ c && c ≤ '7'

/-- The character of an octal number. -/
def octalChar (cs : Chars) : Char :=
  Char.ofNat (cs.foldl (fun n c => 8 * n + (c.toNat - '0'.toNat)) 0 % 256)

/-- The character of a simple escape. -/
def simpleEscape? : Char → Option Char
  | 'a' => some (Char.ofNat 7)
  | 'b' => some (Char.ofNat 8)
  | 'e' => some (Char.ofNat 27)
  | 'f' => some (Char.ofNat 12)
  | 'n' => some '\n'
  | 'r' => some '\r'
  | 't' => some '\t'
  | 'v' => some (Char.ofNat 11)
  | '\\' => some '\\'
  | _ => none

/-- What follows a backslash stands for a character: an octal number of at most three digits, or a
letter. A backslash before anything else stands for itself. -/
def escape (cs : Chars) : Char × Chars :=
  match cs with
  | [] => ('\\', [])
  | c :: rest =>
    if isOctal c then
      let ds := (cs.take 3).takeWhile isOctal
      (octalChar ds, cs.drop ds.length)
    else match simpleEscape? c with
      | some e => (e, rest)
      | none => ('\\', cs)

/-- The text with its escapes read, and whether everything ends here for good. An octal number may
have a zero more in front. -/
def unescape : Nat → Chars → Chars × Bool
  | 0, _ => ([], false)
  | _, [] => ([], false)
  | n + 1, '\\' :: cs =>
    if cs.head? = some 'c' then ([], true)
    else
      let cs := match cs with
        | '0' :: d :: rest => if isOctal d then d :: rest else cs
        | cs => cs
      let (c, rest) := escape cs
      let (text, ends) := unescape n rest
      (c :: text, ends)
  | n + 1, c :: cs =>
    let (text, ends) := unescape n cs
    (c :: text, ends)

/-- What is written of the arguments of `echo`, and whether everything ends there. -/
def echoWords : List Chars → Chars × Bool
  | [] => ([], false)
  | arg :: args =>
    let (text, ends) := unescape (arg.length + 1) arg
    if ends then (text, true)
    else if args.isEmpty then (text, false)
    else
      let (more, ends) := echoWords args
      (text ++ ' ' :: more, ends)

/-- What `echo` writes. -/
def echoText (args : List Chars) : Chars :=
  let (quiet, args) := match args with
    | ['-', 'n'] :: rest => (true, rest)
    | args => (false, args)
  let (text, ends) := echoWords args
  if quiet || ends then text else text ++ ['\n']

/-! ## Conversions -/

/-- How an argument is shown. -/
structure Directive where
  flags : Chars
  width : Nat
  precision : Option Nat
  kind : Char

namespace Directive

/-- A flag is given. -/
def has (d : Directive) (c : Char) : Bool := d.flags.contains c

/-- Fills a text up to the width. A sign and a mark stay in front of zeros. -/
def fill (d : Directive) (zeros : Bool) (front text : Chars) : Chars :=
  let missing := d.width - front.length - text.length
  if d.has '-' then front ++ text ++ List.replicate missing ' '
  else if zeros then front ++ List.replicate missing '0' ++ text
  else List.replicate missing ' ' ++ front ++ text

/-- Shows a text. -/
def showText (d : Directive) (cs : Chars) : Chars :=
  d.fill false [] (match d.precision with
    | some n => cs.take n
    | none => cs)

/-- The sign of a number. -/
def sign (d : Directive) (negative : Bool) : Chars :=
  if negative then ['-'] else if d.has '+' then ['+'] else if d.has ' ' then [' '] else []

/-- Digits, filled up to the precision. A zero without places is empty. -/
def digitsOf (d : Directive) (base n : Nat) : Chars :=
  let ds := if n = 0 && d.precision = some 0 then [] else Nat.toDigits base n
  List.replicate (d.precision.getD 1 - ds.length) '0' ++ ds

/-- Shows a whole number. -/
def showInt (d : Directive) (n : Int) : Chars :=
  let zeros := d.has '0' && d.precision.isNone
  d.fill zeros (d.sign (n < 0)) (d.digitsOf 10 n.natAbs)

/-- Shows a whole number without a sign. -/
def showNat (d : Directive) (n : Nat) : Chars :=
  let zeros := d.has '0' && d.precision.isNone
  match d.kind with
  | 'o' =>
    let ds := d.digitsOf 8 n
    d.fill zeros [] (if d.has '#' && ds.head? ≠ some '0' then '0' :: ds else ds)
  | 'x' => d.fill zeros (if d.has '#' && n ≠ 0 then ['0', 'x'] else []) (d.digitsOf 16 n)
  | 'X' =>
    let front := if d.has '#' && n ≠ 0 then ['0', 'X'] else []
    d.fill zeros front ((d.digitsOf 16 n).map Char.toUpper)
  | _ => d.fill zeros [] (d.digitsOf 10 n)

/-- Shows a number with a point. -/
def showDouble (d : Directive) (x : Double) : Chars :=
  d.fill (d.has '0' && x.isFinite) (d.sign x.isNegative)
    (Figures.text d.kind (d.has '#') d.precision x)

end Directive

/-! ## Numbers as arguments -/

/-- What an argument that is no number is told. -/
def numberFault (arg rest : Chars) (fits : Bool) : Option Chars :=
  if !rest.isEmpty then
    if rest = arg then some (arg ++ ": expected numeric value".toList)
    else some (arg ++ ": not completely converted".toList)
  else if !fits then some (arg ++ ": Numerical result out of range".toList)
  else none

/-- The number that an argument is, with or without a sign, and what is wrong with it. After a
quote it is the number of a character. -/
def numberOf (signed : Bool) (arg : Chars) : Int × Option Chars :=
  match arg with
  | '\'' :: cs => ((cs.head?.map Char.toNat).getD 0, none)
  | '"' :: cs => ((cs.head?.map Char.toNat).getD 0, none)
  | arg =>
    match Number.inFront? true arg with
    | none => (0, numberFault arg arg true)
    | some (n, fits, rest) =>
      if signed then (n, numberFault arg rest fits)
      else
        let front := arg.dropWhile Pattern.isGap
        let negative := front.head? = some '-'
        let unsigned := if negative || front.head? = some '+' then front.drop 1 else front
        let (base, ds) := Number.baseOf true unsigned
        let n := Number.natural base (Number.digitsInFront base ds)
        let fits := n < Number.span
        let n : Int := if !fits then Number.span - 1 else if negative then -n else n
        (Number.bits n, numberFault arg rest fits)

/-- The number with a point that an argument is, and what is wrong with it. -/
def doubleOf (arg : Chars) : Double × Option Chars :=
  let ofCode (cs : Chars) : Double := (Decimal.ofInt ((cs.head?.map Char.toNat).getD 0)).toDouble
  match arg with
  | '\'' :: cs => (ofCode cs, none)
  | '"' :: cs => (ofCode cs, none)
  | arg =>
    match Number.inFront? true arg, Figures.inFront? (arg.dropWhile Pattern.isGap) with
    | some (n, fits, rest), some (x, more) =>
      if rest.length < more.length then ((Decimal.ofInt n).toDouble, numberFault arg rest fits)
      else (x, numberFault arg more true)
    | _, some (x, more) => (x, numberFault arg more true)
    | _, none =>
      match Decimal.numeral? (String.ofList arg) with
      | some (.infinite negative) => (.ofMagnitude negative Shape.double.infinity, none)
      | some (.notANumber _) => (.nan, none)
      | _ => (.zero, numberFault arg arg true)

/-! ## Formats -/

/-- What a format writes so far. -/
structure Printed where
  /-- What was written, in reverse. -/
  text : Chars
  remarks : List Chars
  /-- The arguments that are left. -/
  args : List Chars
  status : Nat
  /-- Nothing more is written. -/
  ends : Bool

namespace Printed

/-- Writes a text. -/
def put (p : Printed) (cs : Chars) : Printed := { p with text := cs.reverse ++ p.text }

/-- Says what is wrong with an argument. -/
def note (p : Printed) : Option Chars → Printed
  | some cs => { p with remarks := p.remarks ++ [cs], status := 1 }
  | none => p

/-- Fails. -/
def fail (p : Printed) (message : Chars) : Printed :=
  { p with remarks := p.remarks ++ [message], status := 2, ends := true }

/-- The next argument, and what is left. -/
def next (p : Printed) : Option Chars × Printed := (p.args.head?, { p with args := p.args.drop 1 })

/-- The next argument as a number. -/
def nextInt (p : Printed) (signed : Bool) : Int × Printed :=
  match p.next with
  | (none, p) => (0, p)
  | (some arg, p) => let (n, fault) := numberOf signed arg; (n, p.note fault)

/-- Shows the next argument. -/
def convert (p : Printed) (d : Directive) (spelling : Chars) : Printed :=
  match d.kind with
  | 's' => let (arg, p) := p.next; p.put (d.showText (arg.getD []))
  | 'c' => let (arg, p) := p.next; p.put (d.showText ((arg.getD []).take 1 ++ missing arg))
  | 'b' =>
    let (arg, p) := p.next
    let (text, ends) := unescape ((arg.getD []).length + 1) (arg.getD [])
    { p.put (d.showText text) with ends }
  | c =>
    if c = 'd' || c = 'i' then let (n, p) := p.nextInt true; p.put (d.showInt n)
    else if ['o', 'u', 'x', 'X'].contains c then
      let (n, p) := p.nextInt false
      p.put (d.showNat n.toNat)
    else if ['e', 'E', 'f', 'F', 'g', 'G'].contains c then
      match p.next with
      | (none, p) => p.put (d.showDouble .zero)
      | (some arg, p) => let (x, fault) := doubleOf arg; (p.note fault).put (d.showDouble x)
    else p.fail (spelling ++ ": invalid directive".toList)
where
  /-- A character that is not there is written as the first of all. -/
  missing (arg : Option Chars) : Chars := if (arg.getD []).isEmpty then [Char.ofNat 0] else []

end Printed

/-- Reads a width or a precision, which can be an argument. -/
def sizeInFront (p : Printed) (cs : Chars) : Int × Printed × Chars × Chars :=
  match cs with
  | '*' :: rest => let (n, p) := p.nextInt true; (n, p, ['*'], rest)
  | cs =>
    let ds := cs.takeWhile fun c => c.isDigit || c = '*'
    (((String.ofList ds).toNat?).getD 0, p, ds, cs.drop ds.length)

/-- Goes through a format once. -/
def formatOnce : Nat → Chars → Printed → Printed
  | 0, _, p => p
  | _, [], p => p
  | n + 1, '\\' :: cs, p => let (c, rest) := escape cs; formatOnce n rest (p.put [c])
  | n + 1, '%' :: '%' :: cs, p => formatOnce n cs (p.put ['%'])
  | n + 1, '%' :: cs, p =>
    let flags := cs.takeWhile "#-+ 0".toList.contains
    let (width, p, widthText, cs) := sizeInFront p (cs.drop flags.length)
    let (precision, p, precisionText, cs) : Option Int × Printed × Chars × Chars := match cs with
      | '.' :: cs =>
        let (size, p, text, cs) := sizeInFront p cs
        (some size, p, '.' :: text, cs)
      | cs => (none, p, [], cs)
    match cs with
    | [] => p.fail "missing format character".toList
    | kind :: cs =>
      let d : Directive :=
        { flags := if width < 0 then '-' :: flags else flags
          width := width.natAbs
          precision := precision.bind fun k => if k < 0 then none else some k.toNat
          kind }
      let p := p.convert d ('%' :: flags ++ widthText ++ precisionText ++ [kind])
      if p.ends then p else formatOnce n cs p
  | n + 1, c :: cs, p => formatOnce n cs (p.put [c])

/-- Goes through a format, again while there are arguments that it takes. -/
def formatAll (format : Chars) : Nat → Printed → Printed
  | 0, p => p
  | n + 1, p =>
    let q := formatOnce (format.length + 1) format p
    if q.ends || q.args.isEmpty || q.args.length = p.args.length then q else formatAll format n q

end AudioHost.Shell
