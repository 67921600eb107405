import AudioHost.Shell.Tool.Basic

/-!
Programs that show what is in files: all of it, a part, or how much it is.
-/

namespace AudioHost.Shell.Tool

open Run

/-- The number of a line, as some programs show it. -/
def lineNumber (width n : Nat) : Chars :=
  let ds := digits n
  List.replicate (width - ds.length) ' ' ++ ds

/-- Writes what can be read as it comes. -/
def pass : Run Bool := do
  match ← source? 0 with
  | none =>
    tell "cat" (charsOf "-: Bad file descriptor")
    return false
  | some (n, source) =>
    keepSource n { source with rest := [] }
    for group in source.rest.splitBy fun x y => x.2 == y.2 do
      match group.head? with
      | some (_, time) => waitUntil time
      | none => pure ()
      put (group.map (·.1))
    waitFor source.closes
    return true

/-- The command `cat`. -/
def cat (args : List Chars) : Run Unit := do
  let (os, files) ← optionsFor "cat" 1 "nbAEsTuvet" "" args
  if !os.isEmpty && (given os 'n' || given os 'b') then
    let mut count := 1
    let mut status := 0
    for arg in if files.isEmpty then [['-']] else files do
      match ← input? "cat" arg with
      | none => status := 1
      | some cs =>
        let (lines, ended) := linesOf cs
        let mut left := lines.length
        for line in lines do
          left := left - 1
          let last := if left = 0 && !ended then [] else ['\n']
          if line.isEmpty && given os 'b' then put last
          else
            put (lineNumber 6 count ++ '\t' :: line ++ last)
            count := count + 1
    result status
  else
    let mut status := 0
    for arg in if files.isEmpty then [['-']] else files do
      if arg = ['-'] then
        if !(← pass) then status := 1
      else match ← input? "cat" arg with
        | some cs => put cs
        | none => status := 1
    result status

/-- The number in front of a count, its sign, and whether it is a number at all. -/
def countOf? (cs : Chars) : Option (Char × Nat) :=
  match cs with
  | '-' :: ds => (Number.ofDigits? ds).map fun n => ('-', n)
  | '+' :: ds => (Number.ofDigits? ds).map fun n => ('+', n)
  | ds => (Number.ofDigits? ds).map fun n => (' ', n)

/-- Puts the number of a first argument such as `-5` behind the letter `n`. -/
def withCount : List Chars → List Chars
  | ('-' :: ds) :: args =>
    (if (Number.ofDigits? ds).isSome then '-' :: 'n' :: ds else '-' :: ds) :: args
  | args => args

/-- Shows a part of each input, under its name if there are several, or as an option says. -/
def showParts (name : String) (os : List (Char × Chars)) (files : List Chars)
    (part : Chars → Chars) : Run Unit := do
  let mut first := true
  let mut status := 0
  for arg in if files.isEmpty then [['-']] else files do
    match ← input? name arg with
    | none => status := 1
    | some cs =>
      if (1 < files.length || given os 'v') && !given os 'q' then
        let shown := if arg = ['-'] then charsOf "standard input" else arg
        put ((if first then [] else ['\n']) ++ charsOf "==> " ++ shown ++ charsOf " <==\n")
      first := false
      put (part cs)
  result status

/-- Lines with their ends. -/
def rawLines (cs : Chars) : List Chars :=
  let (lines, ended) := linesOf cs
  if ended then lines.map (· ++ ['\n'])
  else lines.dropLast.map (· ++ ['\n']) ++ lines.getLast?.toList

/-- The command `head`. -/
def head (args : List Chars) : Run Unit := do
  let (os, files) ← optionsFor "head" 1 "qvz" "nc" (withCount args)
  match (os.lookup 'c').map countOf?, ((os.lookup 'n').getD ['1', '0'] |> countOf?) with
  | some (some (sign, n)), _ =>
    showParts "head" os files fun cs => if sign = '-' then cs.take (cs.length - n) else cs.take n
  | none, some (sign, n) =>
    if files.isEmpty && sign ≠ '-' && !given os 'v' then headOfStream n
    else showParts "head" os files fun cs =>
      let lines := rawLines cs
      (if sign = '-' then lines.take (lines.length - n) else lines.take n).flatten
  | _, _ => refuse "head" (charsOf "invalid number of lines") 1
where
  /-- The first lines of what can be read. More than them is not waited for. -/
  headOfStream (n : Nat) : Run Unit := do
    match ← source? 0 with
    | none => refuse "head" (charsOf "standard input: Bad file descriptor") 1
    | some (k, source) =>
      let (front, complete) := firstLines n source.rest
      keepSource k { source with rest := [] }
      match front.getLast? with
      | some (_, time) => waitUntil time
      | none => pure ()
      if !complete then waitFor source.closes
      put (front.map (·.1))
      result 0
  /-- The first lines, and whether they are all there. -/
  firstLines : Nat → List (Char × Nat) → List (Char × Nat) × Bool
    | 0, _ => ([], true)
    | _, [] => ([], false)
    | n + 1, (c, time) :: rest =>
      let (front, complete) := firstLines (if c = '\n' then n else n + 1) rest
      ((c, time) :: front, complete)

/-- The command `tail`. -/
def tail (args : List Chars) : Run Unit := do
  let (os, files) ← optionsFor "tail" 1 "qvzfF" "nc" (withCount args)
  let part (sign : Char) (n : Nat) (xs : List Chars) : List Chars :=
    if sign = '+' then xs.drop (n - 1) else xs.drop (xs.length - n)
  match (os.lookup 'c').map countOf?, ((os.lookup 'n').getD ['1', '0'] |> countOf?) with
  | some (some (sign, n)), _ =>
    showParts "tail" os files fun cs => (part sign n (cs.map fun c => [c])).flatten
  | none, some (sign, n) => showParts "tail" os files fun cs => (part sign n (rawLines cs)).flatten
  | _, _ => refuse "tail" (charsOf "invalid number of lines") 1

/-- The number of words in a text. -/
def countWords (cs : Chars) : Nat :=
  let (n, _) := cs.foldl
    (fun (n, inWord) c =>
      if Pattern.isGap c then (n, false) else (if inWord then n else n + 1, true))
    (0, false)
  n

/-- The command `wc`. -/
def wc (args : List Chars) : Run Unit := do
  let (os, files) ← optionsFor "wc" 1 "lwmcL" "" args
  let letters := os.map (·.1)
  let has (c : Char) : Bool := letters.contains c
  let all := letters.isEmpty
  let counts (cs : Chars) : List Nat :=
    (if all || has 'l' then [cs.count '\n'] else []) ++
    (if all || has 'w' then [countWords cs] else []) ++
    (if has 'm' then [(textOf cs).length] else []) ++
    (if all || has 'c' then [cs.length] else [])
  let mut rows : List (List Nat × Chars) := []
  let mut status := 0
  for arg in if files.isEmpty then [['-']] else files do
    match ← input? "wc" arg with
    | none => status := 1
    | some cs => rows := rows ++ [(counts cs, if files.isEmpty then [] else arg)]
  if 1 < files.length then
    let sums := rows.foldl (fun sums row => sums.zipWith (· + ·) row.1)
      ((counts []).map fun _ => 0)
    rows := rows ++ [(sums, charsOf "total")]
  let single := rows.length = 1 && (counts []).length = 1
  let widest := (rows.flatMap fun row => row.1.map fun n => (digits n).length).foldl max 1
  let width := if single then 1 else if files.isEmpty then 7 else widest
  for (ns, name) in rows do
    let shown := List.intercalate [' '] (ns.map (lineNumber width))
    put (shown ++ (if name.isEmpty then [] else ' ' :: name) ++ ['\n'])
  result status

end AudioHost.Shell.Tool
