import AudioHost.Shell.Regex
import AudioHost.Shell.Tool.Lines

/-!
Programs of the system that look for texts in lines, and the one that computes with its arguments.
-/

namespace AudioHost.Shell.Tool.Search

open Run

/-! ## Lines with a match -/

/-- Which lines are looked for, and what is shown of them. -/
structure Wish where
  patterns : List Regex
  fold : Bool
  /-- The lines without a match are wanted. -/
  outside : Bool
  /-- Only the number of lines is shown. -/
  counts : Bool
  /-- Only the names of the inputs are shown: of those that have such a line, or have none. -/
  names : Option Bool
  /-- Nothing is shown. -/
  quiet : Bool
  numbers : Bool
  /-- Only what matches is shown of a line. -/
  matchesOnly : Bool
  labels : Bool
  most : Option Nat

/-- The line is wanted. -/
def Wish.wants (w : Wish) (line : Chars) : Bool :=
  (w.patterns.any fun a => a.isIn w.fold line) != w.outside

/-- The pattern that all patterns make together. -/
def Wish.joined (w : Wish) : Regex :=
  match w.patterns with
  | [] => .apart true
  | a :: more => more.foldl .either a

/-- What is shown of an input, and the number of its lines that are wanted. -/
def Wish.show (w : Wish) (label text : Chars) : Chars × Nat :=
  let lines := (linesOf text).1.mapIdx fun i line => (i + 1, line)
  let found := lines.filter fun l => w.wants l.2
  let found := match w.most with
    | some most => found.take most
    | none => found
  let front := if w.labels then label ++ [':'] else []
  let shown :=
    if w.quiet then []
    else match w.names with
      | some wanted => if found.isEmpty != wanted then label ++ ['\n'] else []
      | none =>
        if w.counts then front ++ digits found.length ++ ['\n']
        else found.flatMap fun (n, line) =>
          let front := front ++ if w.numbers then digits n ++ [':'] else []
          if !w.matchesOnly then front ++ line ++ ['\n']
          else if w.outside then []
          else
            (w.joined.findAll w.fold (line.length + 1) ⟨none, line, []⟩).flatMap fun f =>
              front ++ f.text ++ ['\n']
  (shown, found.length)

/-- Long names of options, with their letters. -/
def longNames : List (String × Char) :=
  [("--quiet", 'q'), ("--silent", 'q'), ("--invert-match", 'v'), ("--count", 'c'),
    ("--ignore-case", 'i'), ("--line-number", 'n'), ("--only-matching", 'o'),
    ("--fixed-strings", 'F'), ("--extended-regexp", 'E'), ("--line-regexp", 'x'),
    ("--word-regexp", 'w'), ("--files-with-matches", 'l'), ("--no-messages", 's')]

/-- The short spelling of an argument. -/
def short (arg : Chars) : Chars :=
  match longNames.lookup (String.ofList arg) with
  | some c => ['-', c]
  | none => arg

/-- The command `grep`, which reads its patterns as one of two spellings or as plain texts. -/
def grep (extended plain : Bool) (args : List Chars) : Run Unit := do
  let (os, rest) ← optionsFor "grep" 2 "vciqnoxwFEGlLshHyabTUzrR" "emfABCdD" (args.map short)
  let has := given os
  let texts := (os.filter fun o => o.1 == 'e').map (·.2)
  let (texts, files) := if texts.isEmpty then (rest.take 1, rest.drop 1) else (texts, rest)
  if texts.isEmpty then refuse "grep" (charsOf "no pattern") 2
  else
    let read (text : Chars) : Option Regex :=
      if plain || has 'F' then some (Regex.ofPlain text)
      else Regex.ofText? (extended || has 'E') text
    let bounded (a : Regex) : Regex :=
      if has 'x' then .joined .start (.joined a .finish)
      else if has 'w' then .joined (.apart true) (.joined a (.apart false))
      else a
    match (texts.flatMap (Text.splitAll '\n')).mapM read with
    | none => refuse "grep" (charsOf "Invalid regular expression") 2
    | some patterns =>
      let wish : Wish :=
        { patterns := patterns.map bounded
          fold := has 'i' || has 'y'
          outside := has 'v'
          counts := has 'c'
          names := if has 'l' then some true else if has 'L' then some false else none
          quiet := has 'q'
          numbers := has 'n'
          matchesOnly := has 'o'
          labels := (1 < files.length || has 'H') && !has 'h'
          most := (os.lookup 'm').bind Number.ofDigits? }
      let mut found := 0
      let mut failed := false
      for arg in if files.isEmpty then [['-']] else files do
        let text ← if has 's' then quietInput arg else input? "grep" arg
        match text with
        | none => failed := true
        | some text =>
          let label := if arg = ['-'] then charsOf "(standard input)" else arg
          let (shown, lines) := wish.show label text
          put shown
          found := found + lines
      result (if failed && !(wish.quiet && found ≠ 0) then 2 else if found ≠ 0 then 0 else 1)
where
  /-- The text of an input, whose absence is not told. -/
  quietInput (arg : Chars) : Run (Option Chars) := do
    if arg = ['-'] then readAll 0
    else
      let s ← get
      return fileText? s.files (s.pathOf arg)

/-! ## Values of arguments -/

/-- Why arguments have no value. -/
inductive Fault where
  | malformed
  | notNumber
  | zeroDivision

/-- The message of a fault. -/
def Fault.message : Fault → String
  | .malformed => "syntax error"
  | .notNumber => "non-integer argument"
  | .zeroDivision => "division by zero"

/-- The number that an argument is. -/
def numberOf? (cs : Chars) : Option Int :=
  match cs with
  | '-' :: ds => if ds.isEmpty || !ds.all Char.isDigit then none else some (-Number.natural 10 ds)
  | ds => if ds.isEmpty || !ds.all Char.isDigit then none else some (Number.natural 10 ds)

/-- A value that counts as false: nothing, or zero. -/
def isNothing (cs : Chars) : Bool := cs.isEmpty || numberOf? cs == some 0

/-- The operators, those that bind least first. -/
def ranks : List (List String) :=
  [["|"], ["&"], ["<", "<=", "=", "==", "!=", ">=", ">"], ["+", "-"], ["*", "/", "%"], [":"]]

/-- What a text matches in front: the group of the pattern, or the number of characters. -/
def fit (text pattern : Chars) : Except Fault Chars :=
  match Regex.ofText? false pattern with
  | none => .error .malformed
  | some a =>
    match a.inFront? text, a.hasGroup with
    | some f, true => .ok ((f.groups.lookup 1).getD [])
    | none, true => .ok []
    | some f, false => .ok (digits f.text.length)
    | none, false => .ok ['0']

/-- The value of a comparison. -/
def compare (operator : String) (a b : Chars) : Bool :=
  let (le, ge) : Bool × Bool := match numberOf? a, numberOf? b with
    | some m, some n => (m ≤ n, n ≤ m)
    | _, _ => (bytesLe a b, bytesLe b a)
  match operator with
  | "<" => !ge
  | "<=" => le
  | ">" => !le
  | ">=" => ge
  | "!=" => !(le && ge)
  | _ => le && ge

/-- The value of an operator between two others. -/
def apply (operator : String) (a b : Chars) : Except Fault Chars :=
  match operator with
  | "|" => .ok (if !isNothing a then a else if isNothing b then ['0'] else b)
  | "&" => .ok (if isNothing a || isNothing b then ['0'] else a)
  | ":" => fit a b
  | _ =>
    if (ranks[2]?.getD []).contains operator then
      .ok (if compare operator a b then ['1'] else ['0'])
    else match numberOf? a, numberOf? b with
      | some m, some n =>
        match operator with
        | "+" => .ok (Number.text (m + n))
        | "-" => .ok (Number.text (m - n))
        | "*" => .ok (Number.text (m * n))
        | "/" => if n = 0 then .error .zeroDivision else .ok (Number.text (m.tdiv n))
        | _ => if n = 0 then .error .zeroDivision else .ok (Number.text (m.tmod n))
      | _, _ => .error .notNumber

mutual

/-- The value of arguments in front, up to an operator that binds less. -/
def value : Nat → List (List String) → List Chars → Except Fault (Chars × List Chars)
  | 0, _, _ => .error .malformed
  | n + 1, [], args => single n args
  | n + 1, operators :: more, args => do
    let (a, rest) ← value n more args
    further n operators more a rest

/-- Goes on after a value with operators of one rank. -/
def further : Nat → List String → List (List String) → Chars → List Chars →
    Except Fault (Chars × List Chars)
  | 0, _, _, _, _ => .error .malformed
  | n + 1, operators, more, a, args =>
    match args with
    | [] => .ok (a, [])
    | arg :: rest =>
      if operators.contains (String.ofList arg) then do
        let (b, rest) ← value n more rest
        let c ← apply (String.ofList arg) a b
        further n operators more c rest
      else .ok (a, arg :: rest)

/-- The value of one argument, of brackets, or of a function. -/
def single : Nat → List Chars → Except Fault (Chars × List Chars)
  | 0, _ => .error .malformed
  | n + 1, args =>
    match args with
    | [] => .error .malformed
    | arg :: rest =>
      match String.ofList arg, rest with
      | "(", rest => do
        let (a, rest) ← value n ranks rest
        match rest with
        | [')'] :: rest => .ok (a, rest)
        | _ => .error .malformed
      | ")", _ => .error .malformed
      | "+", arg :: rest => .ok (arg, rest)
      | "length", rest => do
        let (a, rest) ← single n rest
        .ok (digits a.length, rest)
      | "match", rest => do
        let (a, rest) ← single n rest
        let (b, rest) ← single n rest
        .ok (← fit a b, rest)
      | "index", rest => do
        let (a, rest) ← single n rest
        let (b, rest) ← single n rest
        let place := a.findIdx fun c => b.contains c
        .ok (digits (if place < a.length then place + 1 else 0), rest)
      | "substr", rest => do
        let (a, rest) ← single n rest
        let (b, rest) ← single n rest
        let (c, rest) ← single n rest
        match numberOf? b, numberOf? c with
        | some first, some count =>
          if first < 1 || count < 1 then .ok ([], rest)
          else .ok ((a.drop (first.toNat - 1)).take count.toNat, rest)
        | _, _ => .ok ([], rest)
      | _, rest => .ok (arg, rest)

end

/-- The command `expr`. -/
def expr (args : List Chars) : Run Unit := do
  let args := if args.head? = some ['-', '-'] then args.drop 1 else args
  match value (16 * args.length + 16) ranks args with
  | .ok (a, []) =>
    put (a ++ ['\n'])
    result (if isNothing a then 1 else 0)
  | .ok (_, _ :: _) => refuse "expr" (charsOf (Fault.message .malformed)) 2
  | .error f => refuse "expr" (charsOf f.message) 2

end AudioHost.Shell.Tool.Search
