import AudioHost.Shell.Tool.Showing
import AudioHost.Shell.Writing

/-!
Programs that change, choose, sort or join the lines of their input.
-/

namespace AudioHost.Shell.Tool

open Run

/-- The characters that a set of `tr` stands for. -/
def setOf : Nat → Chars → Chars
  | 0, _ => []
  | _, [] => []
  | n + 1, cs =>
    let named := Pattern.classes.findSome? fun (name, test) =>
      (Text.afterPrefix? ("[:" ++ name ++ ":]").toList cs).map fun rest => (test, rest)
    match named, cs with
    | some (test, rest), _ => ((List.range 256).map Char.ofNat).filter test ++ setOf n rest
    | none, '\\' :: rest =>
      let (c, rest) := if rest.isEmpty then ('\\', []) else
        match escape rest with
        | ('\\', same) => (same.headD '\\', same.drop 1)
        | other => other
      continued n c rest
    | none, c :: rest => continued n c rest
    | none, [] => []
where
  /-- Goes on after a character, which may begin a range. -/
  continued (n : Nat) (c : Char) (rest : Chars) : Chars :=
    match rest with
    | '-' :: d :: rest =>
      ((List.range (d.toNat + 1 - c.toNat)).map fun k => Char.ofNat (c.toNat + k)) ++ setOf n rest
    | rest => c :: setOf n rest

/-- Drops repetitions of characters of a set. -/
def squeeze (set : Chars) : Option Char → Chars → Chars
  | _, [] => []
  | last, c :: cs =>
    if last = some c && set.contains c then squeeze set last cs else c :: squeeze set (some c) cs

/-- The command `tr`. -/
def tr (args : List Chars) : Run Unit := do
  let (os, sets) := trOptions args
  match ← readAll 0 with
  | none => refuse "tr" (charsOf "read error: Bad file descriptor") 1
  | some cs =>
    let set (i : Nat) : Chars := let text := sets[i]?.getD []; setOf (text.length + 1) text
    let inFirst (c : Char) : Bool :=
      (set 0).contains c != (os.contains 'c' || os.contains 'C')
    if sets.isEmpty then refuse "tr" (charsOf "missing operand") 1
    else if os.contains 'd' then
      let kept := cs.filter fun c => !inFirst c
      put (if os.contains 's' then squeeze (set 1) none kept else kept)
      result 0
    else if sets.length = 1 then
      if os.contains 's' then
        put (squeeze (cs.filter inFirst) none cs)
        result 0
      else refuse "tr" (charsOf "missing operand after " ++ sets.headD []) 1
    else
      let front := set 0
      let back := set 1
      let change (c : Char) : Char :=
        if os.contains 'c' || os.contains 'C' then
          if inFirst c then back.getLast?.getD c else c
        else if front.contains c then
          (back[front.idxOf c]?.orElse fun _ => back.getLast?).getD c
        else c
      let changed := cs.map change
      put (if os.contains 's' then squeeze back none changed else changed)
      result 0
where
  /-- The letters of the options in front, and the arguments after them. -/
  trOptions : List Chars → Chars × List Chars
    | [] => ([], [])
    | ['-', '-'] :: args => ([], args)
    | arg :: args =>
      if arg.head? = some '-' && 1 < arg.length then
        let (letters, rest) := trOptions args
        (arg.drop 1 ++ letters, rest)
      else ([], arg :: args)

/-- The places that a list such as `1,3-5` names. -/
def ranges? (cs : Chars) : Option (List (Nat × Option Nat)) :=
  (Text.splitAll ',' cs).mapM fun part =>
    match Text.splitFirst? '-' part with
    | none => (Number.ofDigits? part).map fun n => (n, some n)
    | some ([], back) => (Number.ofDigits? back).map fun n => (1, some n)
    | some (front, []) => (Number.ofDigits? front).map fun n => (n, none)
    | some (front, back) => do return (← Number.ofDigits? front, some (← Number.ofDigits? back))

/-- The members of a list at places that are named. -/
def pick {α : Type} (ranges : List (Nat × Option Nat)) (xs : List α) : List α :=
  (xs.mapIdx fun i x => (i + 1, x)).filterMap fun (i, x) =>
    let named := ranges.any fun (first, last) =>
      first ≤ i && (last.map fun l => decide (i ≤ l)).getD true
    if named then some x else none

/-- The command `cut`. -/
def cut (args : List Chars) : Run Unit := do
  let (os, files) ← optionsFor "cut" 1 "sz" "dfcb" args
  let delimiter := ((os.lookup 'd').bind List.head?).getD '\t'
  let places := (os.lookup 'c').orElse fun _ => os.lookup 'b'
  match places.map ranges?, (os.lookup 'f').map ranges? with
  | some (some ranges), _ =>
    eachInput "cut" files fun _ cs => put (joinLines ((linesOf cs).1.map (pick ranges)))
  | none, some (some ranges) =>
    eachInput "cut" files fun _ cs =>
      let shown := (linesOf cs).1.filterMap fun line =>
        if line.contains delimiter then
          some (List.intercalate [delimiter] (pick ranges (Text.splitAll delimiter line)))
        else if given os 's' then none
        else some line
      put (joinLines shown)
  | _, _ => refuse "cut" (charsOf "you must specify a list of bytes, characters, or fields") 1

/-- The number in front of a line, in thousandths. -/
def leadingNumber (cs : Chars) : Int :=
  let cs := cs.dropWhile Pattern.isGap
  let (negative, cs) := match cs with
    | '-' :: rest => (true, rest)
    | cs => (false, cs)
  let whole := cs.takeWhile Char.isDigit
  let fraction := match cs.drop whole.length with
    | '.' :: rest => rest.takeWhile Char.isDigit
    | _ => []
  let n : Int := Number.natural 10 (whole ++ (fraction ++ ['0', '0', '0']).take 3)
  if negative then -n else n

/-- The words of a line from one on. -/
def fromWord (separator : Option Char) : Nat → Chars → Chars
  | 0, cs => cs
  | 1, cs => cs
  | n + 2, cs =>
    match separator with
    | some c => fromWord separator (n + 1) ((cs.dropWhile (· ≠ c)).drop 1)
    | none =>
      let word := cs.dropWhile Pattern.isGap
      fromWord separator (n + 1) (word.dropWhile fun c => !Pattern.isGap c)

/-- The command `sort`. -/
def sort (args : List Chars) : Run Unit := do
  let (os, files) ← optionsFor "sort" 2 "bdfghiMnRrVcCmsuz" "ktoST" args
  let mut lines : List Chars := []
  let mut status := 0
  for arg in if files.isEmpty then [['-']] else files do
    match ← input? "sort" arg with
    | none => status := 2
    | some cs => lines := lines ++ (linesOf cs).1
  let spec := (os.lookup 'k').getD []
  let column := Number.natural 10 (spec.takeWhile Char.isDigit)
  let only := (spec.dropWhile (· ≠ ',')).length ≠ 0
  let separator := (os.lookup 't').bind List.head?
  let numeric := given os 'n' || spec.contains 'n'
  let backwards := given os 'r' || spec.contains 'r'
  let key (line : Chars) : Chars :=
    let rest := fromWord separator column line
    let rest := if given os 'b' || spec.contains 'b' then rest.dropWhile Pattern.isGap else rest
    if !only then rest
    else match separator with
      | some c => rest.takeWhile (· ≠ c)
      | none =>
        let gap := rest.takeWhile Pattern.isGap
        gap ++ (rest.drop gap.length).takeWhile fun c => !Pattern.isGap c
  let folded (cs : Chars) : Chars := if given os 'f' then cs.map Char.toUpper else cs
  let keyLe (a b : Chars) : Bool :=
    if numeric then leadingNumber (key a) ≤ leadingNumber (key b)
    else bytesLe (folded (key a)) (folded (key b))
  let le (a b : Chars) : Bool :=
    let same := keyLe a b && keyLe b a
    if same then given os 'u' || given os 's' || (if backwards then bytesLe b a else bytesLe a b)
    else if backwards then keyLe b a else keyLe a b
  let sorted := lines.mergeSort le
  let distinct := if given os 'u' then
      sorted.foldr (fun line rest => match rest with
        | next :: _ =>
          if keyLe line next && keyLe next line then line :: rest.drop 1 else line :: rest
        | [] => [line]) []
    else sorted
  if given os 'c' || given os 'C' then
    let pairs := (lines.zip (lines.drop 1)).zipIdx
    match pairs.find? fun p => !le p.1.1 p.1.2 with
    | none => result status
    | some ((_, line), n) =>
      if given os 'c' then
        let name := files.headD ['-']
        tell "sort" (name ++ ':' :: digits (n + 2) ++ charsOf ": disorder: " ++ line)
      result 1
  else
    put (joinLines distinct)
    result status

/-- Equal neighbours with their number. -/
def groups (same : Chars → Chars → Bool) : List Chars → List (Nat × Chars)
  | [] => []
  | line :: lines =>
    match groups same lines with
    | (n, next) :: rest =>
      if same line next then (n + 1, line) :: rest else (1, line) :: (n, next) :: rest
    | [] => [(1, line)]

/-- The command `uniq`. -/
def uniq (args : List Chars) : Run Unit := do
  let (os, files) ← optionsFor "uniq" 1 "cdDiuz" "fsw" args
  eachInput "uniq" (files.take 1) fun _ cs =>
    let same (a b : Chars) : Bool :=
      if given os 'i' then a.map Char.toLower == b.map Char.toLower else a == b
    let found := groups same (linesOf cs).1
    let found := if given os 'd' then found.filter fun g => 1 < g.1 else found
    let found := if given os 'u' then found.filter fun g => g.1 = 1 else found
    put (joinLines (found.map fun (n, line) =>
      if given os 'c' then lineNumber 7 n ++ ' ' :: line else line))

/-- The command `tee`. -/
def tee (args : List Chars) : Run Unit := do
  let (os, files) ← optionsFor "tee" 1 "aip" "" args
  match ← readAll 0 with
  | none => refuse "tee" (charsOf "read error: Bad file descriptor") 1
  | some cs =>
    put cs
    let mut status := 0
    for arg in files do
      let s ← get
      let p := s.pathOf arg
      let old := if given os 'a' then (fileText? s.files p).getD [] else []
      if canWrite s.files p then putFile p (old ++ cs)
      else if p.text ≠ "/dev/null" && (streamOfDevice? p).isNone then
        tell "tee" (arg ++ charsOf ": No such file or directory")
        status := 1
    result status

/-- The command `rev`. -/
def rev (args : List Chars) : Run Unit :=
  eachInput "rev" args fun _ cs =>
    let (lines, ended) := linesOf cs
    let shown := joinLines (lines.map List.reverse)
    put (if ended then shown else shown.dropLast)

/-- The command `tac`. -/
def tac (args : List Chars) : Run Unit :=
  eachInput "tac" args fun _ cs => put (rawLines cs).reverse.flatten

/-- Lines that stand beside one another, with marks between them that take turns. -/
def beside (marks : Chars) : Nat → List Chars → Chars
  | _, [] => []
  | _, [cs] => cs
  | n, cs :: more => cs ++ marks[n % max marks.length 1]?.toList ++ beside marks (n + 1) more

/-- Every so many members of a list, from one on. -/
def everyFrom {α : Type} (first step : Nat) (xs : List α) : List α :=
  ((xs.drop first).zipIdx.filter fun x => x.2 % step = 0).map (·.1)

/-- The command `paste`. -/
def paste (args : List Chars) : Run Unit := do
  let (os, files) ← optionsFor "paste" 1 "sz" "d" args
  let text := (os.lookup 'd').getD ['\t']
  let marks := (setOf (text.length + 1) text).map fun c => if c = '0' then Char.ofNat 0 else c
  let files := if files.isEmpty then [['-']] else files
  let dashes := if given os 's' then 1 else files.count ['-']
  -- Columns of what can be read share its lines.
  let mut shared : Option (List Chars) := none
  let mut turn := 0
  let mut columns : List (List Chars) := []
  let mut status := 0
  for arg in files do
    let lines : Option (List Chars) ←
      if arg = ['-'] && shared.isSome then pure shared
      else pure ((← input? "paste" arg).map fun cs => (linesOf cs).1)
    match lines with
    | none => status := 1
    | some lines =>
      if arg = ['-'] then
        shared := some lines
        columns := columns ++ [everyFrom turn dashes lines]
        turn := turn + 1
      else columns := columns ++ [lines]
  if given os 's' then put (joinLines (columns.map (beside marks 0)))
  else
    let rows := (columns.map List.length).foldl max 0
    put (joinLines ((List.range rows).map fun i =>
      beside marks 0 (columns.map fun column => column[i]?.getD [])))
  result status

/-- The command `nl`, which numbers lines that are not empty. -/
def numberLines (args : List Chars) : Run Unit := do
  let (os, files) ← optionsFor "nl" 1 "p" "bdfhilnsvw" args
  let all := os.lookup 'b' = some ['a']
  let width := ((os.lookup 'w').bind countOf?).elim 6 (·.2)
  let separator := (os.lookup 's').getD ['\t']
  let mut count := ((os.lookup 'v').bind countOf?).elim 1 (·.2)
  let mut status := 0
  for arg in if files.isEmpty then [['-']] else files do
    match ← input? "nl" arg with
    | none => status := 1
    | some cs =>
      for line in (linesOf cs).1 do
        if line.isEmpty && !all then
          put (List.replicate (width + separator.length) ' ' ++ ['\n'])
        else
          put (lineNumber width count ++ separator ++ line ++ ['\n'])
          count := count + 1
  result status

/-- The command `fold`, which cuts lines that are too long. -/
def fold (args : List Chars) : Run Unit := do
  let (os, files) ← optionsFor "fold" 1 "bs" "w" args
  let width := ((os.lookup 'w').bind countOf?).elim 80 (·.2)
  let parts (line : Chars) : List Chars :=
    if line.isEmpty then [[]] else pieces width line.length line
  eachInput "fold" files fun _ cs =>
    let (lines, ended) := linesOf cs
    let shown := joinLines (lines.flatMap parts)
    put (if ended then shown else shown.dropLast)
where
  /-- The parts of a line. -/
  pieces (width : Nat) : Nat → Chars → List Chars
    | 0, _ => []
    | _, [] => []
    | n + 1, cs => cs.take (max width 1) :: pieces width n (cs.drop (max width 1))

/-- The command `printenv`. -/
def printVariables (args : List Chars) : Run Unit := do
  let shown := (← get).exported
  if args.isEmpty then
    put (shown.flatMap fun (name, v) => charsOf name ++ '=' :: (v.value.getD [] ++ ['\n']))
    result 0
  else
    let values := args.map fun name => (shown.lookup (String.ofList name)).bind Variable.value
    put (joinLines (values.filterMap id))
    verdict (values.all Option.isSome)

end AudioHost.Shell.Tool
