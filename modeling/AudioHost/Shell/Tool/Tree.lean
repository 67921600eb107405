import AudioHost.Shell.Condition
import AudioHost.Shell.Tool.Lines
import AudioHost.Shell.Tool.Names

/-!
Programs that change the tree of files, and the one that lists it.
-/

namespace AudioHost.Shell.Tool

open Run

/-- Does something with each of some files. -/
def eachFile (args : List Chars) (act : Chars → Path → State → Run Bool) : Run Unit := do
  let mut status := 0
  for arg in args do
    let s ← get
    if !(← act arg (s.pathOf arg) s) then status := 1
  result status

/-- Changes the tree of files. -/
def alter (f : FileTree → FileTree) : Run Unit := modify fun s => { s with files := f s.files }

/-- The tree without a directory and what is below it. -/
def removeBelow (t : FileTree) (p : Path) : FileTree :=
  match t.newNames? p with
  | some names => ⟨t.entries.filter fun e => !names.isPrefixOf e.1⟩
  | none => t

/-- A path leads somewhere, or is a link. -/
def isThere (t : FileTree) (p : Path) : Bool :=
  t.reaches p || (match t.newNames? p with
    | some names => (t.entryAt (.inside names)).isSome
    | none => false)

/-- The command `rm`. -/
def rm (args : List Chars) : Run Unit := do
  let (os, names) ← optionsFor "rm" 1 "fiIrRdv" "" args
  let forced := given os 'f'
  let deep := given os 'r' || given os 'R'
  eachFile names fun arg p s => do
    let deny (why : String) : Run Bool := do
      tell "rm" (charsOf "cannot remove '" ++ arg ++ charsOf s!"': {why}")
      return false
    if !isThere s.files p then
      if forced then return true else deny "No such file or directory"
    else if s.files.isDirectory p && !Condition.isLink s p then
      if deep then
        alter fun t => removeBelow t p
        return true
      else if given os 'd' && (s.files.names? p).getD [] = [] then
        alter fun t => removeBelow t p
        return true
      else deny "Is a directory"
    else
      alter fun t => t.remove p
      return true

/-- The command `rmdir`. -/
def rmdir (args : List Chars) : Run Unit := do
  let (_, names) ← optionsFor "rmdir" 1 "pv" "" args
  eachFile names fun arg p s => do
    let deny (why : String) : Run Bool := do
      tell "rmdir" (charsOf "failed to remove '" ++ arg ++ charsOf s!"': {why}")
      return false
    if !isThere s.files p then deny "No such file or directory"
    else if !s.files.isDirectory p then deny "Not a directory"
    else if (s.files.names? p).getD [] ≠ [] then deny "Directory not empty"
    else
      alter fun t => removeBelow t p
      return true

/-- The command `mkdir`. -/
def mkdir (args : List Chars) : Run Unit := do
  let (os, names) ← optionsFor "mkdir" 1 "pvZ" "m" args
  eachFile names fun arg p s => do
    let deny (why : String) : Run Bool := do
      tell "mkdir" (charsOf "cannot create directory '" ++ arg ++ charsOf s!"': {why}")
      return false
    let parent := p.parent?.getD ⟨""⟩
    if given os 'p' then
      if s.files.isFile p then deny "File exists"
      else
        alter fun t => t.makeDirectory p
        return true
    else if isThere s.files p then deny "File exists"
    else if parent.text.isEmpty || s.files.isDirectory parent then
      alter fun t => t.makeDirectory p
      return true
    else deny "No such file or directory"

/-- The command `touch`. -/
def touch (args : List Chars) : Run Unit := do
  let (os, names) ← optionsFor "touch" 1 "acfhm" "dtr" args
  eachFile names fun arg p s => do
    if s.files.reaches p || given os 'c' then return true
    else if canWrite s.files p then
      putFile p []
      return true
    else
      tell "touch" (charsOf "cannot touch '" ++ arg ++ charsOf "': No such file or directory")
      return false

/-- The path that a file gets when it is put at a place, which may be a directory. -/
def targetIn (s : State) (target name : Chars) : Path :=
  let p := s.pathOf target
  if s.files.isDirectory p then s.pathOf (trimSlashes target ++ '/' :: lastName name) else p

/-- The commands `cp` and `mv`. -/
def copy (name : String) (moves : Bool) (args : List Chars) : Run Unit := do
  let (_, names) ← optionsFor name 1 "abdfiHlLnpPRrsTuvxZ" "tS" args
  match names.getLast? with
  | none => refuse name (charsOf "missing file operand") 1
  | some target =>
    if names.length < 2 then
      refuse name (charsOf "missing destination file operand after '" ++ target ++ ['\'']) 1
    else eachFile names.dropLast fun arg p s => do
      match s.files.lookUp? p with
      | some (.file content executable) =>
        let q := targetIn s target arg
        if canWrite s.files q then
          alter fun t =>
            let old := match t.lookUp? q with
              | some (.file _ x) => x && !moves
              | _ => false
            let t := if moves then t.remove q else t
            let t := t.writeFile q content (executable || old)
            if moves && !p.same q then t.remove p else t
          return true
        else
          tell name (charsOf "cannot create regular file '" ++ target ++
            charsOf "': No such file or directory")
          return false
      | some _ =>
        tell name (charsOf "-r not specified; omitting directory '" ++ arg ++ ['\''])
        return false
      | none =>
        tell name (charsOf "cannot stat '" ++ arg ++ charsOf "': No such file or directory")
        return false

/-- The command `ln`, which makes links that hold paths. -/
def link (args : List Chars) : Run Unit := do
  let (os, names) ← optionsFor "ln" 1 "bdfFiLnPrsTv" "tS" args
  match names with
  | [target, name] => do
    let s ← get
    let p := targetIn s name target
    if given os 'f' then alter fun t => t.remove p
    let s ← get
    if isThere s.files p then
      refuse "ln" (charsOf "failed to create symbolic link '" ++ name ++ charsOf "': File exists") 1
    else
      alter fun t => t.place p (.link ⟨textOf target⟩)
      result 0
  | _ => refuse "ln" (charsOf "missing file operand") 1

/-- The command `chmod`: files can be run or not. -/
def chmod (args : List Chars) : Run Unit := do
  match args with
  | mode :: names =>
    let adds := mode.contains 'x' && mode.contains '+' ||
      (!mode.isEmpty && mode.all Char.isDigit && mode.any fun c => c = '7' || c = '5' || c = '1')
    let drops := mode.contains 'x' && mode.contains '-' ||
      (!mode.isEmpty && mode.all Char.isDigit && !adds)
    eachFile names fun arg p s => do
      match s.files.find p with
      | .ok (.inside names) =>
        alter fun t => match t.entryAt (.inside names) with
          | some (.file content x) => t.put names (.file content ((x || adds) && !drops))
          | _ => t
        return true
      | .ok .outside => return true
      | .error _ =>
        tell "chmod" (charsOf "cannot access '" ++ arg ++ charsOf "': No such file or directory")
        return false
  | [] => refuse "chmod" (charsOf "missing operand") 1

/-- The command `ls`, one name on each line. -/
def ls (args : List Chars) : Run Unit := do
  let (os, names) ← optionsFor "ls" 2 "aAbBcCdfFgGhHiklLmnNopqQrRsStuUvxXZ1" "ITw" args
  let hidden := given os 'a' || given os 'A'
  let names := if names.isEmpty then [['.']] else names
  let s ← get
  let isFolder (arg : Chars) : Bool := s.files.isDirectory (s.pathOf arg) && !given os 'd'
  let sorted := names.mergeSort bytesLe
  let mut status := 0
  for arg in sorted do
    if !isThere s.files (s.pathOf arg) then
      tell "ls" (charsOf "cannot access '" ++ arg ++ charsOf "': No such file or directory")
      status := 2
  let files := sorted.filter fun arg => isThere s.files (s.pathOf arg) && !isFolder arg
  put (joinLines files)
  let mut first := files.isEmpty
  for arg in sorted.filter isFolder do
    let inside := ((s.files.names? (s.pathOf arg)).getD []).map fun n => charsOf (String.ofList n)
    let shown := (inside.filter fun n => hidden || n.head? ≠ some '.').mergeSort bytesLe
    let dots := if given os 'a' then [['.'], ['.', '.']] else []
    if 1 < names.length then
      put ((if first then [] else ['\n']) ++ arg ++ [':', '\n'])
    first := false
    put (joinLines (dots ++ shown))
  result status

end AudioHost.Shell.Tool
