import AudioHost.Shell.Condition
import AudioHost.Shell.Mask
import AudioHost.Shell.Process
import AudioHost.Shell.Signal
import AudioHost.Shell.Writing

/-!
Commands of the shell that run no others.
-/

namespace AudioHost.Shell.Builtin

open Run

/-! ## Output -/

/-- The command `printf`. -/
def printf (args : List Chars) : Run Unit := do
  match args with
  | ['-', '-'] :: format :: args => go format args
  | format :: args =>
    if format.head? = some '-' && 1 < format.length && format ≠ ['-', '-'] then
      failWith 2 (charsOf "Illegal option -" ++ (format.drop 1).take 1)
    else if format = ['-', '-'] then fail "usage: printf format [arg ...]"
    else go format args
  | [] => fail "usage: printf format [arg ...]"
where
  go (format : Chars) (args : List Chars) : Run Unit := do
    let p := formatAll format (args.length + 1) ⟨[], [], args, 0, false⟩
    p.remarks.forM complain
    say p.text.reverse
    if p.status = 2 then
      result 2
      throw .fault
    else if p.status ≠ 0 then result p.status

/-! ## Input -/

/-- Takes a line from what can be read: its items, what is left, and the time at which its end
came, if it came. A backslash quotes the next character, or goes on in the next line. -/
def takeLine (raw : Bool) (separators : Chars) :
    List (Char × Nat) → List Item × List (Char × Nat) × Option Nat
  | [] => ([], [], none)
  | ('\\', _) :: (d, later) :: more =>
    if raw then
      let (items, rest, ended) := takeLine raw separators ((d, later) :: more)
      (Item.divided separators ['\\'] ++ items, rest, ended)
    else
      let (items, rest, ended) := takeLine raw separators more
      (if d = '\n' then items else .glyph ⟨d, true⟩ :: items, rest, ended)
  | (c, time) :: more =>
    if c = '\n' then ([], more, some time)
    else
      let (items, rest, ended) := takeLine raw separators more
      let hidden := c = Char.ofNat 0 || (c = '\\' && !raw)
      (if hidden then items else Item.divided separators [c] ++ items, rest, ended)

/-- The options in front: their letters, and the arguments after them. -/
def options : List Chars → Chars × List Chars
  | [] => ([], [])
  | ['-', '-'] :: args => ([], args)
  | arg :: args =>
    if arg.head? = some '-' && 1 < arg.length then
      let (letters, rest) := options args
      (arg.drop 1 ++ letters, rest)
    else ([], arg :: args)

/-- The arguments of `read`: whether backslashes are kept, and the names. -/
def readArguments : List Chars → Bool × List Chars
  | [] => (false, [])
  | ['-', '-'] :: args => (false, args)
  | arg :: args =>
    if arg.head? = some '-' && 1 < arg.length then
      let raw := arg.contains 'r'
      match arg.getLast?, args with
      | some 'p', _ :: args =>
        let (more, names) := readArguments args
        (raw || more, names)
      | _, args =>
        let (more, names) := readArguments args
        (raw || more, names)
    else (false, arg :: args)

/-- The command `read`. -/
def read (args : List Chars) : Run Unit := do
  let (raw, names) := readArguments args
  if names.isEmpty then fail "arg count"
  match names.find? fun name => !isName name with
  | some name => failWith 2 (name ++ charsOf ": bad variable name")
  | none =>
    match ← source? 0 with
    | none => result 1
    | some (n, source) =>
      let (items, rest, ended) := takeLine raw (← get).separators source.rest
      keepSource n { source with rest }
      match ended with
      | some time => waitUntil time
      | none => waitFor source.closes
      for (name, value) in giveFields (names.map String.ofList) items do
        setVariable name value
      verdict ended.isSome

/-! ## Variables -/

/-- The text of a value that a script could read. -/
def quote (cs : Chars) : Chars :=
  let parts := Text.splitAll '\'' cs
  let shown := parts.map fun part => if part.isEmpty then [] else '\'' :: part ++ ['\'']
  if cs.isEmpty then ['\'', '\''] else List.intercalate "\"'\"".toList shown

/-- The text that lists variables, in the order of their names. -/
def listing (front : String) (vs : List (String × Variable)) : Chars :=
  let sorted := vs.mergeSort fun a b => a.1 ≤ b.1
  sorted.flatMap fun (name, v) =>
    let value := match v.value with
      | some cs => '=' :: quote cs
      | none => []
    charsOf front ++ charsOf name ++ value ++ ['\n']

/-- Cuts an argument that may give a value to a variable. -/
def binding (arg : Chars) : Chars × Option Chars :=
  match Text.splitFirst? '=' arg with
  | some (name, value) => (name, some value)
  | none => (arg, none)

/-- Fails if a text is no name. -/
def checkName (name : Chars) : Run Unit := do
  if !isName name then failWith 2 (name ++ charsOf ": bad variable name")

/-- Changes a variable that may not be there yet. -/
def alterVariable (name : String) (f : Variable → Variable) : Run Unit :=
  modify fun s =>
    s.putVariable name (some (f ((s.variableNamed? name).getD ⟨none, false, false⟩)))

/-- The commands `export` and `readonly`. -/
def declare (name : String) (has : Variable → Bool) (mark : Variable → Variable)
    (args : List Chars) : Run Unit := do
  let (letters, args) := options args
  if args.isEmpty || letters.contains 'p' then
    say (listing (name ++ " ") ((← get).bindings.filter fun v => has v.2))
  else
    for arg in args do
      let (name, value) := binding arg
      checkName name
      match value with
      | some cs => setVariable (String.ofList name) cs
      | none => pure ()
      alterVariable (String.ofList name) mark
    result 0

/-- The command `local`. -/
def localNames (args : List Chars) : Run Unit := do
  if (← get).hidden.isEmpty || (← get).calls = 0 then fail "not in a function"
  for arg in args do
    let (name, value) := binding arg
    if arg ≠ ['-'] then
      checkName name
      hide (String.ofList name)
      match value with
      | some cs => setVariable (String.ofList name) cs
      | none => pure ()
  result 0

/-- The command `unset`. -/
def unset (args : List Chars) : Run Unit := do
  let (letters, args) := options args
  for arg in args do
    let name := String.ofList arg
    if letters.contains 'f' then
      modify fun s => { s with functions := s.functions.filter fun f => f.1 != name }
    else
      checkName arg
      if (((← get).variableNamed? name).map Variable.fixed).getD false then
        failWith 2 (arg ++ charsOf ": is read only")
      modify fun s => s.putVariable name none
  result 0

/-! ## Options and parameters -/

/-- The options, by their letters and names. -/
def optionNames : List (Char × String) :=
  [('e', "errexit"), ('f', "noglob"), ('I', "ignoreeof"), ('i', "interactive"), ('m', "monitor"),
    ('n', "noexec"), ('s', "stdin"), ('x', "xtrace"), ('v', "verbose"), ('V', "vi"),
    ('E', "emacs"), ('C', "noclobber"), ('a', "allexport"), ('b', "notify"), ('u', "nounset"),
    ('p', "privileged")]

/-- The names of options that have no letter and change nothing. -/
def idleOptions : List String := ["nolog", "debug"]

/-- The text that lists the options, or that turns them on and off again if it is run. -/
def optionListing (asScript : Bool) (given : List Char) : Chars :=
  let states := optionNames.map (fun (letter, name) => (name, given.contains letter)) ++
    idleOptions.map fun name => (name, false)
  let line (name : String) (on : Bool) : String :=
    if asScript then (if on then "set -o " else "set +o ") ++ name ++ "\n"
    else name ++ String.ofList (List.replicate (16 - name.length) ' ') ++
      (if on then "on" else "off") ++ "\n"
  charsOf <| (if asScript then "" else "Current option settings\n") ++
    String.join (states.map fun (name, on) => line name on)

/-- Turns an option on or off. -/
def setOption (on : Bool) (letter : Char) : Run Unit := do
  if !(optionNames.map (·.1)).contains letter then
    failWith 2 (charsOf "Illegal option -" ++ [letter])
  modify fun s =>
    let others := s.options.filter (· ≠ letter)
    { s with options := if on then others ++ [letter] else others }

/-- Turns options on or off, and says what is left and whether it takes the place of the
parameters. -/
def setOptions (inScript : Bool) : List Chars → Run (List Chars × Bool)
  | [] => return ([], false)
  | arg :: args => do
    match arg with
    | ['-'] => return (args, !args.isEmpty || !inScript)
    | ['-', '-'] => return (args, true)
    | sign :: letters =>
      if sign ≠ '-' && sign ≠ '+' then return (arg :: args, true)
      let on := sign = '-'
      for letter in letters do
        if letter ≠ 'o' then setOption on letter
      if letters.contains 'o' then
        match args with
        | name :: args =>
          match optionNames.find? fun o => o.2 = String.ofList name with
          | some (letter, _) =>
            setOption on letter
            setOptions inScript args
          | none =>
            if idleOptions.contains (String.ofList name) then setOptions inScript args
            else failWith 2 (charsOf "Illegal option -o " ++ name)
        | [] =>
          say (optionListing (!on) (← get).options)
          return ([], false)
      else setOptions inScript args
    | [] => return (arg :: args, true)

/-- The command `set`. -/
def setCommand (args : List Chars) : Run Unit := do
  if args.isEmpty then say (listing "" ((← get).bindings.filter fun v => v.2.value.isSome))
  else
    let (rest, given) ← setOptions true args
    if given then modify fun s => { s with parameters := rest, optionPlace := 0 }
    result 0

/-- The number that an argument is. -/
def numberIn (arg : Chars) : Run Nat := do
  match Number.ofDigits? arg with
  | some n => return n
  | none => failWith 2 (charsOf "Illegal number: " ++ arg)

/-- The command `shift`. -/
def shift (args : List Chars) : Run Unit := do
  let n ← match args.head? with
    | some arg => numberIn arg
    | none => pure 1
  if (← get).parameters.length < n then fail "can't shift that many"
  modify fun s => { s with parameters := s.parameters.drop n, optionPlace := 0 }
  result 0

/-- What the command `getopts` finds. -/
structure FoundOption where
  letter : Char
  value : Option Chars
  /-- The number of the next argument, and the place in the one before it. -/
  next : Nat
  place : Nat
  message : Option Chars
  ended : Bool

/-- Finds the next option in arguments. -/
def nextOption (spec : Chars) (args : List Chars) (next place : Nat) : FoundOption :=
  let quiet := spec.head? = some ':'
  let current := (args[next - 2]?.getD []).drop place
  let inside := 1 < next && 0 < place && !current.isEmpty
  let word := args[next - 1]?.getD []
  let done (next : Nat) : FoundOption := ⟨'?', none, next, 0, none, true⟩
  if !inside && (word.head? ≠ some '-' || word.length < 2) then done next
  else if !inside && word = ['-', '-'] then done (next + 1)
  else
    let cs := if inside then current else word.drop 1
    let next := if inside then next else next + 1
    let letter := cs.head?.getD '?'
    let rest := cs.drop 1
    let place := (args[next - 2]?.getD []).length - rest.length
    let spec := if quiet then spec.drop 1 else spec
    match spec.dropWhile (· ≠ letter) with
    | _ :: ':' :: _ =>
      if !rest.isEmpty then ⟨letter, some rest, next, 0, none, false⟩
      else match args[next - 1]? with
        | some arg => ⟨letter, some arg, next + 1, 0, none, false⟩
        | none =>
          if quiet then ⟨':', some [letter], next, 0, none, false⟩
          else ⟨'?', none, next, 0, some (charsOf "No arg for -" ++ [letter] ++
            charsOf " option\n"), false⟩
    | _ :: _ =>
      if letter = ':' then ⟨'?', none, next, place, none, false⟩
      else ⟨letter, some [], next, place, none, false⟩
    | [] =>
      if quiet then ⟨'?', some [letter], next, place, none, false⟩
      else ⟨'?', none, next, place, some (charsOf "Illegal option -" ++ [letter, '\n']), false⟩

/-- The command `getopts`. -/
def getopts (args : List Chars) : Run Unit := do
  match args with
  | spec :: name :: args =>
    let s ← get
    let args := if args.isEmpty then s.parameters else args
    let next := max 1 (((s.named? "OPTIND").bind Number.ofDigits?).getD 1)
    let found := nextOption spec args next s.optionPlace
    match found.message with
    | some cs => remark cs
    | none => pure ()
    match found.value with
    | some cs => setVariable "OPTARG" cs
    | none => if !found.ended then modify fun s => s.putVariable "OPTARG" none
    setVariable "OPTIND" (digits found.next)
    setVariable (String.ofList name) [found.letter]
    modify fun s => { s with optionPlace := found.place }
    verdict !found.ended
  | _ => fail "Usage: getopts optstring var [arg]"

/-! ## Leaving -/

/-- The command `exit`. -/
def exit (args : List Chars) : Run Unit := do
  match args.head? with
  | some arg => result ((← numberIn arg) % 256)
  | none => pure ()
  throw .leave

/-- The command `return`. -/
def giveBack (args : List Chars) : Run Unit := do
  match args.head? with
  | some arg => result (← numberIn arg)
  | none => pure ()
  throw .giveBack

/-- The commands `break` and `continue`. Without a loop they do nothing. -/
def leaveLoops (stop : Nat → Stop) (args : List Chars) : Run Unit := do
  let n ← match args.head? with
    | some arg => numberIn arg
    | none => pure 1
  if n = 0 then failWith 2 (charsOf "Illegal number: " ++ args.head?.getD [])
  result 0
  let loops := min n (← get).loops
  if loops ≠ 0 then throw (stop loops)

/-! ## Places and processes -/

/-- A path without steps back to a directory above a name in it. -/
def withoutReturns (p : Path) : Path :=
  let walk (names : List Chars) (piece : Chars) : List Chars :=
    match piece, names with
    | [], names => names
    | ['.'], names => names
    | ['.', '.'], [] => if p.isAbsolute then [] else [piece]
    | ['.', '.'], name :: rest => if name = piece then piece :: names else rest
    | piece, names => piece :: names
  let text := List.intercalate ['/'] ((Text.splitAll '/' p.chars).foldl walk []).reverse
  ⟨String.ofList (if p.isAbsolute then '/' :: text else text)⟩

/-- Makes a directory the one that the process works in. -/
def enter (p : Path) : Run Unit := do
  let give (name : String) : Run Unit := do
    let value := (← get).fullPath
    alterVariable name fun v => { v with value, exported := true }
  give "OLDPWD"
  modify fun s => { s with directory := withoutReturns p, lastDirectory := s.directory }
  give "PWD"

/-- The command `cd`. -/
def changeDirectory (args : List Chars) : Run Unit := do
  let s ← get
  let (letters, args) := options args
  match letters.find? fun c => c ≠ 'L' && c ≠ 'P' with
  | some c => failWith 2 (charsOf "Illegal option -" ++ [c])
  | none =>
    let target := (args.head?.orElse fun _ => s.named? "HOME").getD []
    if target.isEmpty then result 0
    else if target = ['-'] then
      enter s.lastDirectory
      say ((← get).fullPath ++ ['\n'])
    else
      let p := s.pathOf target
      if s.files.isDirectory p || State.outsideDirectories.contains p.text then
        enter p
        result 0
      else failWith 2 (charsOf "can't cd to " ++ target)

/-- The command `pwd`. -/
def tellDirectory (_ : List Chars) : Run Unit := do
  say ((← get).fullPath ++ ['\n'])

/-- The command `trap`. -/
def trap (args : List Chars) : Run Unit := do
  let s ← get
  let (_, args) := options args
  let change (action : Option Chars) (events : List Chars) : Run Unit := do
    result 0
    for event in events do
      match Signal.number? event with
      | none =>
        remark (charsOf "trap: " ++ event ++ charsOf ": bad trap\n")
        result 1
        break
      | some n =>
        let name := Signal.name n
        modify fun s =>
          let others := s.traps.filter fun t => t.1 != name
          match action with
          | some script => { s with traps := (name, script) :: others }
          | none => { s with traps := others }
  match args with
  | [] =>
    let number (t : String × Chars) : Nat := Signal.names.idxOf t.1
    let sorted := s.traps.mergeSort fun a b => number a ≤ number b
    say (sorted.flatMap fun t =>
      charsOf "trap -- " ++ quote t.2 ++ [' '] ++ charsOf t.1 ++ ['\n'])
  | [event] => change none [event]
  | action :: events =>
    if (Signal.number? action).isSome then change none args
    else change (if action = ['-'] then none else some action) events

/-- The command `wait`. -/
def wait (args : List Chars) : Run Unit := do
  let s ← get
  match args with
  | [] =>
    for n in s.children do
      match s.jobs.find? fun j => j.number = n with
      | some j => waitFor j.ends
      | none => pure ()
    result 0
  | args =>
    for arg in args do
      let children := s.children
      match s.jobs.find? fun j => digits j.number = arg && children.contains j.number with
      | some j =>
        waitFor j.ends
        result j.status
      | none => result 127

/-- The command `umask`. -/
def umask (args : List Chars) : Run Unit := do
  let (letters, args) := options args
  let mask := (← get).mask
  match args with
  | [] => say ((if letters.contains 'S' then Mask.letters mask else Mask.octal mask) ++ ['\n'])
  | arg :: _ =>
    let isNumber := (arg.head?.map Char.isDigit).getD false
    let kind := if isNumber then "number" else "mode"
    match if isNumber then Mask.ofOctal? arg else Mask.ofLetters? mask arg with
    | some mask =>
      modify fun s => { s with mask }
      result 0
    | none => failWith 2 (charsOf s!"Illegal {kind}: " ++ arg)

/-- The commands `fg` and `bg`, which fail: a script has no say in which process a terminal
follows. -/
def follow (args : List Chars) : Run Unit := do
  let count := (← get).children.length
  let unknown (job : Chars) : Run Unit := failWith 2 (charsOf "No such job: " ++ job)
  let foreign (job : Chars) : Run Unit :=
    failWith 2 (charsOf "job " ++ job ++ charsOf " not created under job control")
  match args with
  | [] => if count = 0 then fail "No current job" else foreign (charsOf "(null)")
  | job :: _ =>
    match (Text.afterPrefix? ['%'] job).bind Number.ofDigits? with
    | some n => if 1 ≤ n && n ≤ count then foreign job else unknown job
    | none => unknown job

/-- The command `jobs`: the processes that run beside this one. -/
def jobs (_ : List Chars) : Run Unit := do
  let s ← get
  let numbered := (s.children.reverse.zipIdx 1).reverse
  let shown := numbered.filterMap fun (process, n) =>
    match s.jobs.find? fun j => j.number = process with
    | none => none
    | some j =>
      if (j.ends.map fun time => decide (time ≤ s.now)).getD false then none
      else
        let last := numbered.length
        let sign := if n = last then '+' else if n + 1 = last then '-' else ' '
        let front := charsOf s!"[{n}] " ++ sign :: charsOf " Running"
        some (front ++ List.replicate (33 - front.length) ' ' ++ ['\n'])
  say shown.flatten

/-! ## Aliases -/

/-- An alias as a script could give it. -/
def showAlias (a : String × Chars) : Chars := charsOf a.1 ++ '=' :: quote a.2

/-- The command `alias`. -/
def giveAliases (args : List Chars) : Run Unit := do
  if args.isEmpty then say ((← get).aliases.listed.flatMap fun a => showAlias a ++ ['\n'])
  else
    let mut status := 0
    for arg in args do
      let (name, value) := binding arg
      let name := String.ofList name
      match value with
      | some text => modify fun s => { s with aliases := s.aliases.give name text }
      | none =>
        match (← get).aliases.lookup name with
        | some text => say (showAlias (name, text) ++ ['\n'])
        | none =>
          remark (charsOf "alias: " ++ arg ++ charsOf " not found\n")
          status := 1
    result status

/-- The command `unalias`. -/
def dropAliases (args : List Chars) : Run Unit := do
  let (letters, names) := options args
  if letters.contains 'a' then modify fun s => { s with aliases := [] }
  let mut status := 0
  for arg in names do
    let name := String.ofList arg
    if ((← get).aliases.lookup name).isNone then
      remark (charsOf "unalias: " ++ arg ++ charsOf " not found\n")
      status := 1
    modify fun s => { s with aliases := s.aliases.drop name }
  result status

/-! ## All of them -/

/-- The command of a name. -/
def find? : String → Option (List Chars → Run Unit)
  | ":" => some fun _ => result 0
  | "true" => some fun _ => result 0
  | "false" => some fun _ => result 1
  | "echo" => some fun args => say (echoText args)
  | "printf" => some printf
  | "read" => some read
  | "test" => some Condition.test
  | "[" => some fun args =>
    if args.getLast? = some [']'] then Condition.test args.dropLast else fail "missing ]"
  | "export" => some (declare "export" Variable.exported fun v => { v with exported := true })
  | "readonly" => some (declare "readonly" Variable.fixed fun v => { v with fixed := true })
  | "local" => some localNames
  | "unset" => some unset
  | "set" => some setCommand
  | "shift" => some shift
  | "getopts" => some getopts
  | "exit" => some exit
  | "return" => some giveBack
  | "break" => some (leaveLoops .endLoops)
  | "continue" => some (leaveLoops .nextRound)
  | "cd" => some changeDirectory
  | "chdir" => some changeDirectory
  | "trap" => some trap
  | "wait" => some wait
  | "umask" => some umask
  | "hash" => some fun _ => result 0
  | "jobs" => some jobs
  | "fg" => some follow
  | "bg" => some follow
  | "alias" => some giveAliases
  | "unalias" => some dropAliases
  | "times" => some fun _ => say (charsOf "0m0.00s 0m0.00s\n0m0.00s 0m0.00s\n")
  | "ulimit" => some fun _ => say (charsOf "unlimited\n")
  | "pwd" => some tellDirectory
  | _ => none

/-- The names of the commands that run others. -/
def running : List String := [".", "eval", "exec", "command", "type", "kill"]

/-- The shell has a command of its own with this name. -/
def isKnown (name : String) : Bool := running.contains name || (find? name).isSome

end AudioHost.Shell.Builtin
