import AudioHost.Shell.Tool.Basic

/-!
Programs that take names of files apart, count, or wait.
-/

namespace AudioHost.Shell.Tool

open Run

/-! ## Names and numbers -/

/-- A path without slashes at its end. -/
def trimSlashes (cs : Chars) : Chars := (cs.reverse.dropWhile (· = '/')).reverse

/-- The last name of a path. -/
def lastName (cs : Chars) : Chars :=
  let trimmed := trimSlashes cs
  if trimmed.isEmpty then cs.take 1
  else match Text.splitLast? '/' trimmed with
    | some (_, name) => name
    | none => trimmed

/-- A name without an ending, which is not all of it. -/
def withoutEnding (ending name : Chars) : Chars :=
  if name ≠ ending && !ending.isEmpty && name.drop (name.length - ending.length) = ending then
    name.take (name.length - ending.length)
  else name

/-- The command `basename`. -/
def basename (args : List Chars) : Run Unit := do
  let (os, names) ← optionsFor "basename" 1 "az" "s" args
  match os.lookup 's', given os 'a', names with
  | _, _, [] => refuse "basename" (charsOf "missing operand") 1
  | some ending, _, names =>
    put (joinLines (names.map fun name => withoutEnding ending (lastName name)))
    result 0
  | none, true, names =>
    put (joinLines (names.map lastName))
    result 0
  | none, false, [name] =>
    put (lastName name ++ ['\n'])
    result 0
  | none, false, [name, ending] =>
    put (withoutEnding ending (lastName name) ++ ['\n'])
    result 0
  | none, false, _ :: _ :: arg :: _ =>
    refuse "basename" (charsOf "extra operand '" ++ arg ++ ['\'']) 1

/-- The directory part of a path. -/
def directoryName (cs : Chars) : Chars :=
  match Text.splitLast? '/' (trimSlashes cs) with
  | some (front, _) => let front := trimSlashes front; if front.isEmpty then ['/'] else front
  | none => if cs.head? = some '/' then ['/'] else ['.']

/-- The command `dirname`. -/
def dirname (args : List Chars) : Run Unit := do
  let (_, names) ← optionsFor "dirname" 1 "z" "" args
  if names.isEmpty then refuse "dirname" (charsOf "missing operand") 1
  else
    put (joinLines (names.map directoryName))
    result 0

/-- The command `seq`. -/
def seq (args : List Chars) : Run Unit := do
  let (os, rest) := seqOptions args
  let numbers := rest.map (Number.ofText? false)
  let run (first step last : Int) : Run Unit := do
    if step = 0 then refuse "seq" (charsOf "invalid Zero increment value: '0'") 1
    else
      let count := if step > 0 then (last - first) / step + 1 else (first - last) / (-step) + 1
      let values := (List.range (min count.toNat roundLimit)).map fun (k : Nat) => first + step * k
      let texts := values.map Number.text
      let width := (texts.map List.length).foldl max 0
      let wide (cs : Chars) : Chars :=
        if given os 'w' then List.replicate (width - cs.length) '0' ++ cs else cs
      let separator := (os.lookup 's').getD ['\n']
      let shown := List.intercalate separator (texts.map wide)
      put (if texts.isEmpty then [] else shown ++ ['\n'])
      result 0
  match numbers with
  | [some last] => run 1 1 last
  | [some first, some last] => run first 1 last
  | [some first, some step, some last] => run first step last
  | _ => refuse "seq" (charsOf "invalid argument") 1
where
  /-- The options in front of numbers, which may have signs. -/
  seqOptions : List Chars → List (Char × Chars) × List Chars
    | ['-', 'w'] :: args => let (os, rest) := seqOptions args; (('w', []) :: os, rest)
    | ['-', 's'] :: separator :: args =>
      let (os, rest) := seqOptions args
      (('s', separator) :: os, rest)
    | ('-' :: 's' :: separator) :: args =>
      let (os, rest) := seqOptions args
      (('s', separator) :: os, rest)
    | args => ([], args)

/-! ## Time -/

/-- The milliseconds of a number of seconds with a unit. -/
def milliseconds? (cs : Chars) : Option Nat :=
  let whole := cs.takeWhile Char.isDigit
  let (fraction, rest) := match cs.drop whole.length with
    | '.' :: rest => (rest.takeWhile Char.isDigit, rest.dropWhile Char.isDigit)
    | rest => ([], rest)
  if whole.isEmpty && fraction.isEmpty then none
  else
    let n := Number.natural 10 (whole ++ (fraction ++ ['0', '0', '0']).take 3)
    match rest with
    | [] => some n
    | ['s'] => some n
    | ['m'] => some (n * 60)
    | ['h'] => some (n * 3600)
    | ['d'] => some (n * 86400)
    | _ => none

/-- The command `sleep`. -/
def sleep (args : List Chars) : Run Unit := do
  if args = ["infinity".toList] then throw .hang
  match args.mapM milliseconds? with
  | some (n :: ns) =>
    waitUntil ((← get).now + ns.foldl (· + ·) n)
    result 0
  | some [] => refuse "sleep" (charsOf "missing operand") 1
  | none => refuse "sleep" (charsOf "invalid time interval") 1

end AudioHost.Shell.Tool
