import AudioHost.Shell.Number
import AudioHost.Shell.Process

/-!
What the programs of the system have in common: messages, inputs with their lines, and options.
-/

namespace AudioHost.Shell.Tool

open Run

/-! ## Files and lines -/

/-- Gives a message in the name of a program. -/
def tell (name : String) (message : Chars) : Run Unit :=
  remark (charsOf name ++ [':', ' '] ++ message ++ ['\n'])

/-- Gives a message and fails. -/
def refuse (name : String) (message : Chars) (status : Nat) : Run Unit := do
  tell name message
  result status

/-- Why a file can not be read. -/
def readFault (files : FileTree) (p : Path) : String :=
  if files.isDirectory p then "Is a directory"
  else match files.find p with
    | .error .notDirectory => "Not a directory"
    | .error .tooManyLinks => "Too many levels of symbolic links"
    | _ => "No such file or directory"

/-- The bytes of an input: of a file, or of what can be read for a lone dash. -/
def input? (name : String) (arg : Chars) : Run (Option Chars) := do
  let s ← get
  let p := s.pathOf arg
  let device := if p.text = "/dev/null" then none else streamOfDevice? p
  if p.text = "/dev/null" then return some []
  if arg = ['-'] || device.isSome then
    match ← readAll (device.getD 0) with
    | some cs => return some cs
    | none =>
      tell name (charsOf "-: Bad file descriptor")
      return none
  match fileText? s.files p with
  | some cs => return some cs
  | none =>
    tell name (arg ++ [':', ' '] ++ charsOf (readFault s.files p))
    return none

/-- Goes through inputs, which are what can be read if none are named. The result says whether all
could be read. -/
def eachInput (name : String) (args : List Chars) (use : Chars → Chars → Run Unit) :
    Run Unit := do
  let mut status := 0
  for arg in if args.isEmpty then [['-']] else args do
    match ← input? name arg with
    | some cs => use arg cs
    | none => status := 1
  result status

/-- The lines of a text, each without its end, and whether the last one has an end. -/
def linesOf (cs : Chars) : List Chars × Bool :=
  let parts := Text.splitAll '\n' cs
  if parts.getLast? = some [] then (parts.dropLast, true) else (parts, false)

/-- Lines as a text. -/
def joinLines (lines : List Chars) : Chars := lines.flatMap (· ++ ['\n'])

/-- Writes a text. -/
def put (cs : Chars) : Run Unit := do
  let _ ← write 1 cs

/-- Splits arguments: options with one letter, of which some take a value, and the rest. -/
def options (valued : Chars) : List Chars → List (Char × Chars) × List Chars
  | [] => ([], [])
  | ['-', '-'] :: args => ([], args)
  | arg :: args =>
    if arg.head? ≠ some '-' || arg.length < 2 then
      let (os, rest) := options valued args
      (os, arg :: rest)
    else
      let (flags, last) := letters (arg.drop 1)
      match last, args with
      | some (c, []), value :: args =>
        let (os, rest) := options valued args
        (flags ++ (c, value) :: os, rest)
      | some (c, value), args =>
        let (os, rest) := options valued args
        (flags ++ (c, value) :: os, rest)
      | none, args =>
        let (os, rest) := options valued args
        (flags ++ os, rest)
where
  /-- The letters up to one that takes a value, and that one with what follows it. -/
  letters : Chars → List (Char × Chars) × Option (Char × Chars)
    | [] => ([], none)
    | c :: cs =>
      if valued.contains c then ([], some (c, cs))
      else let (flags, last) := letters cs; ((c, []) :: flags, last)

/-- The options of a program and the other arguments. The program ends if it does not know one. -/
def optionsFor (name : String) (status : Nat) (known valued : String) (args : List Chars) :
    Run (List (Char × Chars) × List Chars) := do
  let (os, rest) := options valued.toList args
  match os.find? fun o => !(known ++ valued).toList.contains o.1 with
  | none => return (os, rest)
  | some (c, _) =>
    tell name (charsOf "invalid option -- '" ++ [c, '\''])
    result status
    throw .vanish

/-- An option is given. -/
def given (os : List (Char × Chars)) (c : Char) : Bool := (os.lookup c).isSome

end AudioHost.Shell.Tool
