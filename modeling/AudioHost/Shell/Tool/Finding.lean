import AudioHost.Shell.Condition
import AudioHost.Shell.Tool.Lines
import AudioHost.Shell.Tool.Names

/-!
Programs that find files and tell their real places, and the one that tells the time.
-/

namespace AudioHost.Shell.Tool

open Run

/-! ## Places -/

/-- The full path of a place in or outside of the tree of files. -/
def placeText : FileTree.Place → Chars
  | .outside => ['/']
  | .inside names => State.topPath ++ names.flatMap fun n => '/' :: charsOf (String.ofList n)

/-- The real place of a path, whose last name may be new. -/
def realPath? (s : State) (arg : Chars) : Option Chars :=
  let p := s.pathOf arg
  match s.files.realPlace? p with
  | some place => some (if p.isAbsolute then arg else placeText place)
  | none =>
    let directory := p.parent?.getD ⟨""⟩
    if directory.text.isEmpty || s.files.isDirectory directory then
      (s.files.newNames? p).map fun names => placeText (.inside names)
    else none

/-- The command `realpath`. -/
def realpath (args : List Chars) : Run Unit := do
  let (_, names) ← optionsFor "realpath" 1 "emLPqsz" "" args
  let mut status := 0
  for arg in names do
    match realPath? (← get) arg with
    | some path => put (path ++ ['\n'])
    | none =>
      tell "realpath" (arg ++ charsOf ": No such file or directory")
      status := 1
  result status

/-- What a link leads to. -/
def linkTarget? (s : State) (arg : Chars) : Option Chars :=
  let p := s.pathOf arg
  let directory := p.parent?.getD ⟨""⟩
  let directory := if directory.text.isEmpty then ⟨"."⟩ else directory
  match p.fileName?.bind (s.files.entryIn? directory) with
  | some (.link target) => some (charsOf target.text)
  | _ => none

/-- The command `readlink`. -/
def readlink (args : List Chars) : Run Unit := do
  let (os, names) ← optionsFor "readlink" 1 "femnqsvz" "" args
  let real := given os 'f' || given os 'e' || given os 'm'
  let ending := if given os 'n' then [] else ['\n']
  let mut status := 0
  for arg in names do
    let s ← get
    match if real then realPath? s arg else linkTarget? s arg with
    | some path => put (path ++ ending)
    | none => status := 1
  result status

/-! ## Searching -/

/-- The files at and below a path, each with its depth, in the order of their names. -/
def filesBelow (s : State) : Nat → Nat → Chars → List (Chars × Nat)
  | 0, _, _ => []
  | n + 1, depth, path =>
    let p := s.pathOf path
    let inside :=
      if s.files.isDirectory p && !Condition.isLink s p then
        let names := ((s.files.names? p).getD []).map fun name => charsOf (String.ofList name)
        let front := if path.getLast? = some '/' then path else path ++ ['/']
        (names.mergeSort bytesLe).flatMap fun name => filesBelow s n (depth + 1) (front ++ name)
      else []
    (path, depth) :: inside

/-- A file is of a kind that a letter stands for. -/
def isOfKind (s : State) (kind : String) (path : Chars) : Bool :=
  let p := s.pathOf path
  let isLink := Condition.isLink s p
  match kind with
  | "f" => s.files.isFile p && !isLink
  | "d" => s.files.isDirectory p && !isLink
  | "l" => isLink
  | _ => false

/-- The last name of a path matches a pattern. -/
def isNamed (pattern : String) (path : Chars) : Bool :=
  Pattern.matchesText ((charsOf pattern).map fun c => ⟨c, false⟩) (lastName path)

/-- A file at some depth is one of those that are wanted. -/
def isWanted (s : State) (path : Chars) (depth : Nat) : List String → Bool
  | "-name" :: pattern :: rest => isNamed pattern path && isWanted s path depth rest
  | "!" :: "-name" :: pattern :: rest => !isNamed pattern path && isWanted s path depth rest
  | "-type" :: kind :: rest => isOfKind s kind path && isWanted s path depth rest
  | "!" :: "-type" :: kind :: rest => !isOfKind s kind path && isWanted s path depth rest
  | "-maxdepth" :: most :: rest => depth ≤ most.toNat?.getD 0 && isWanted s path depth rest
  | "-mindepth" :: least :: rest => least.toNat?.getD 0 ≤ depth && isWanted s path depth rest
  | _ :: rest => isWanted s path depth rest
  | [] => true

/-- The command `find`. -/
def find (args : List Chars) : Run Unit := do
  let isPath (arg : Chars) : Bool := arg.head? ≠ some '-' && arg ≠ ['!'] && arg ≠ ['(']
  let paths := args.takeWhile isPath
  let wanted := (args.drop paths.length).map textOf
  let mut status := 0
  for path in if paths.isEmpty then [['.']] else paths do
    let s ← get
    if s.files.reaches (s.pathOf path) || Condition.isLink s (s.pathOf path) then
      let all := filesBelow s (s.files.entries.length + 2) 0 path
      put (joinLines ((all.filter fun (path, depth) => isWanted s path depth wanted).map (·.1)))
    else
      tell "find" ('\'' :: path ++ charsOf "': No such file or directory")
      status := 1
  result status

/-! ## New files and the time -/

/-- The command `mktemp`. -/
def makeTemporary (args : List Chars) : Run Unit := do
  let (os, _) ← optionsFor "mktemp" 1 "dqtu" "p" args
  let s ← get
  let numbered (n : Nat) : Chars := State.topPath ++ charsOf s!"/.tmp.{n}"
  let isNew (n : Nat) : Bool := !s.files.reaches (s.pathOf (numbered n))
  let path := numbered (((List.range roundLimit).find? isNew).getD 0)
  let p := s.pathOf path
  if given os 'd' then modify fun s => { s with files := s.files.makeDirectory p }
  else putFile p []
  put (path ++ ['\n'])
  result 0

/-- The seconds between 1970 and the start of a script. -/
def startTime : Nat := 1700000000

/-- The command `date`, which knows the time in seconds. -/
def date (args : List Chars) : Run Unit := do
  let now := (← get).now
  let shown (c : Char) : Chars :=
    match c with
    | 's' => digits (startTime + now / 1000)
    | 'N' => digits (now % 1000 * 1000000)
    | 'Y' => charsOf "2023"
    | c => ['%', c]
  let rec fill : Chars → Chars
    | '%' :: c :: cs => shown c ++ fill cs
    | c :: cs => c :: fill cs
    | [] => []
  match args.getLast? with
  | some ('+' :: format) => put (fill format ++ ['\n'])
  | _ => put (charsOf "Tue Nov 14 22:13:20 UTC 2023\n")
  result 0

end AudioHost.Shell.Tool
