import AudioHost.Shell.Builtin
import AudioHost.Shell.Expansion
import AudioHost.Shell.Tool

/-!
Running commands: redirections, functions, programs, and commands made of others.
-/

namespace AudioHost.Shell

namespace Run

/-! ## Redirections -/

/-- The stream that a redirection changes. -/
def changed : Redirection → Nat
  | .input n _ => n
  | .output n _ _ _ => n
  | .both n _ => n
  | .same n _ => n
  | .text n _ => n

/-- Carries out a redirection, and says whether that is possible. -/
def redirectOne (r : Runner) (d : Redirection) : Run Bool := do
  let refuse (message : Chars) : Run Bool := do
    complain message
    return false
  match d with
  | .input n w => do
    let name ← textOfWord r w
    match ← openToRead ((← get).pathOf name) with
    | some target =>
      setStream n (some target)
      return true
    | none => refuse (charsOf "cannot open " ++ name ++ charsOf ": No such file")
  | .output n keeps force w => do
    let name ← textOfWord r w
    let s ← get
    let p := s.pathOf name
    let cannot (why : String) : Run Bool :=
      refuse (charsOf "cannot create " ++ name ++ charsOf s!": {why}")
    if s.options.contains 'C' && !keeps && !force && s.files.isFile p then cannot "File exists"
    else match ← openToWrite p keeps with
      | some target =>
        setStream n (some target)
        return true
      | none =>
        if s.files.isDirectory p then cannot "Is a directory" else cannot "Directory nonexistent"
  | .both n w => do
    let name ← textOfWord r w
    let p := (← get).pathOf name
    let made ← openToWrite p true
    match ← if n = 0 then openToRead p else pure made with
    | some target =>
      setStream n (some target)
      return true
    | none => refuse (charsOf "cannot open " ++ name ++ charsOf ": No such file")
  | .same n w => do
    let name ← textOfWord r w
    match name with
    | ['-'] =>
      setStream n none
      return true
    | [c] =>
      if !c.isDigit then failWith 2 (charsOf "Bad fd number: " ++ name)
      match (← get).streams.lookup (c.toNat - '0'.toNat) with
      | some target =>
        setStream n (some target)
        return true
      | none => refuse (name ++ charsOf ": Bad file descriptor")
    | _ => failWith 2 (charsOf "Bad fd number: " ++ name)
  | .text n w => do
    match ← attempt (textOfWord r w) with
    | .ok text =>
      setStream n (some (← newSource (.ofChars (← get).now text)))
      return true
    | .error .fault => return false
    | .error stop => throw stop

/-- Carries out redirections up to one that is not possible, and says whether there is none. -/
def redirectAll (r : Runner) : List Redirection → Run Bool
  | [] => return true
  | d :: ds => do if ← redirectOne r d then redirectAll r ds else return false

/-- Puts back the streams that redirections changed. -/
def putBack (old : List (Nat × Stream)) (ds : List Redirection) : Run Unit :=
  ds.forM fun d => setStream (changed d) (old.lookup (changed d))

/-- Runs a step with redirections around it, or fails without running it. -/
def redirected (r : Runner) (ds : List Redirection) (failed x : Run Unit) : Run Unit := do
  if ds.isEmpty then x
  else
    let old := (← get).streams
    let stop ← attempt do
      if ← redirectAll r ds then x
      else
        result 2
        failed
    putBack old ds
    resume stop

/-! ## Functions -/

/-- The most functions that can run within one another. -/
def callLimit : Nat := 1000

/-- Runs a function with parameters. -/
def call (r : Runner) (tested : Bool) (body : Command) (args : List Chars) : Run Unit := do
  let s ← get
  if callLimit ≤ s.calls then
    fail s!"Maximum function recursion depth ({callLimit}) reached"
  set { s with parameters := args, loops := 0, calls := s.calls + 1, optionPlace := 0 }
  let stop ← attempt (withHidden (r.command tested body))
  modify fun t =>
    { t with
      parameters := s.parameters
      loops := s.loops
      calls := s.calls
      optionPlace := s.optionPlace }
  match stop with
  | .error .giveBack => return
  | stop => resume stop

/-- Runs a command of the shell. If it fails the process ends, unless the command is an ordinary
one. -/
def speakAs (name : Chars) (special : Bool) (x : Run Unit) : Run Unit := do
  let old := (← get).speaker
  modify fun s => { s with speaker := some name }
  let stop ← attempt x
  modify fun s => { s with speaker := old }
  match stop with
  | .error .fault => if special then throw .fault
  | stop => resume stop

/-! ## Programs -/

/-- The directories in which the programs of the system are. -/
def systemDirectories : List String := ["/bin/", "/usr/bin/"]

/-- The names under which the shell can be started. -/
def shellNames : List String := ["sh", "dash", "bash"]

/-- The programs that run others, or that are also commands of the shell. -/
def otherPrograms : List String :=
  shellNames ++ ["env", "nohup", "timeout", "nice", "setsid", "xargs", "echo", "printf", "test",
    "[", "pwd", "kill", "which"]

/-- The system has a program of this name. -/
def isProgram (name : String) : Bool := otherPrograms.contains name || (Tool.find? name).isSome

/-- Where programs are looked for. -/
def usualPath : String := "/usr/local/sbin:/usr/local/bin:/usr/sbin:/usr/bin:/sbin:/bin"

/-- The program of the system that a path leads to. -/
def systemProgram? (cs : Chars) : Option String :=
  let name := systemDirectories.findSome? fun d => Text.afterPrefix? d.toList cs
  name.bind fun name => if isProgram (String.ofList name) then some (String.ofList name) else none

/-- The path of the program that a name stands for. A name with a slash is a path itself. -/
def locate? (s : State) (name : Chars) : Option Chars :=
  if name.contains '/' then some name
  else
    let directories := Text.splitAll ':' ((s.named? "PATH").getD [])
    let paths := directories.map fun d => if d.isEmpty then name else d ++ '/' :: name
    paths.find? fun path =>
      (systemProgram? path).isSome || match s.files.lookUp? (s.pathOf path) with
        | some (.file _ executable) => executable
        | _ => false

/-- The interpreter of a script that names one on its first line, with an argument for it if one
is there. -/
def interpreter? : Chars → Option (List Chars)
  | '#' :: '!' :: cs =>
    let isSpace (c : Char) : Bool := c = ' ' || c = '\t'
    let line := (cs.takeWhile (· ≠ '\n')).dropWhile isSpace
    let line := (line.reverse.dropWhile isSpace).reverse
    let name := line.takeWhile fun c => !isSpace c
    let argument := (line.drop name.length).dropWhile isSpace
    if name.isEmpty then none
    else some (if argument.isEmpty then [name] else [name, argument])
  | _ => none

/-- The variables of a script that begins, which gets some others. The separators and the place
among options never come from outside, and there is always a path to programs. -/
def ownVariables (given : List (String × Variable)) : List (String × Variable) :=
  let own := [("IFS", [' ', '\t', '\n']), ("OPTIND", ['1'])].map fun (name, value) =>
    (name, (⟨some value, false, false⟩ : Variable))
  let others := given.filter fun v => v.1 != "IFS" && v.1 != "OPTIND"
  let path : Variable := ⟨some (charsOf usualPath), false, false⟩
  own ++ others ++ if (others.lookup "PATH").isSome then [] else [("PATH", path)]

/-- Makes the process one that runs a script of its own. -/
def begin (zero : Chars) (parameters : List Chars) : Run Unit := do
  modify fun s =>
    { s with
      bindings := ownVariables s.exported
      hidden := []
      functions := []
      aliases := []
      zero
      parameters
      status := 0
      inWord := 0
      options := []
      loops := 0
      line := 1
      speaker := none
      optionPlace := 0 }
  let value := (← get).fullPath
  Builtin.alterVariable "PWD" fun v => { v with value, exported := true }

/-- Splits the arguments of the shell: the options in front, whether a script is among them, and
the rest. -/
def shellArguments : List Chars → List Chars × Bool × List Chars
  | [] => ([], false, [])
  | ['-', '-'] :: args => ([], false, args)
  | ['-'] :: args => ([], false, args)
  | arg :: args =>
    if (arg.head? = some '-' || arg.head? = some '+') && 1 < arg.length then
      let letters := arg.filter fun c => c ≠ 'c' && c ≠ 's'
      let isScript := arg.contains 'c'
      let own := if letters.length < 2 then [] else [letters]
      match arg.contains 'o', args with
      | true, name :: args =>
        let (options, script, rest) := shellArguments args
        (own ++ [name] ++ options, isScript || script, rest)
      | _, args =>
        let (options, script, rest) := shellArguments args
        (own ++ options, isScript || script, rest)
    else ([], false, arg :: args)

/-- Runs the shell with arguments, in a process that has begun. -/
def shell (r : Runner) (name : Chars) (args : List Chars) : Run Unit := do
  let (options, isScript, rest) := shellArguments args
  let start (zero : Chars) (parameters : List Chars) : Run Unit := do
    begin zero parameters
    let _ ← Builtin.setOptions false options
  match isScript, rest with
  | true, script :: rest =>
    start (rest.headD name) (rest.drop 1)
    runText r false script
  | true, [] =>
    start name []
    fail "-c requires an argument"
  | false, file :: rest =>
    if args.any fun arg => arg.head? = some '-' && arg.contains 's' && arg ≠ file then
      start name (file :: rest)
      runText r false ((← readAll 0).getD [])
    else
      start name []
      let s ← get
      match fileText? s.files (s.pathOf file) with
      | some script =>
        start file rest
        runText r false script
      | none =>
        modify fun s => { s with line := 0 }
        fail s!"cannot open {textOf file}: No such file"
  | false, [] =>
    start name []
    runText r false ((← readAll 0).getD [])

/-- How a program is started: from the system, from a file with a script, or not at all. -/
inductive Start where
  | system (name : String)
  | script (text : Chars)
  | missing
  | denied

/-- How the program is started that a path leads to. -/
def startOf (s : State) (path : Chars) : Start :=
  match systemProgram? path with
  | some name => .system name
  | none => match s.files.lookUp? (s.pathOf path) with
    | some (.file (.bytes bytes) true) => .script (ofBytes bytes)
    | some _ => .denied
    | none => .missing

/-- Changes the variables as the arguments of `env` say, and gives the command among them. An option
can hold several arguments in one. -/
def surroundings : Nat → List Chars → Run (List Chars)
  | 0, args => pure args
  | n + 1, args => do
    match args with
    | ['-', '-'] :: rest => return rest
    | ['-', 'u'] :: name :: rest =>
      modify fun s => s.putVariable (String.ofList name) none
      surroundings n rest
    | ['-', 'S'] :: text :: rest => surroundings n (Tool.wordsOf none none text ++ rest)
    | ('-' :: 'S' :: text) :: rest => surroundings n (Tool.wordsOf none none text ++ rest)
    | arg :: rest =>
      if arg = ['-'] || arg = ['-', 'i'] then
        -- Without variables the programs are still found.
        let path : Variable := ⟨some (charsOf "/bin:/usr/bin"), false, false⟩
        modify fun s => { s with bindings := [("PATH", path)] }
        surroundings n rest
      else if arg.contains '=' then
        let (name, value) := Builtin.binding arg
        setVariable (String.ofList name) (value.getD [])
        Builtin.alterVariable (String.ofList name) fun v => { v with exported := true }
        surroundings n rest
      else return args
    | [] => return []

/-- How often one interpreter can be the script of another. -/
def interpreterLimit : Nat := 5

/-- Runs a program in the place of the process. `who` is called with the result and the words for
a program that can not be run. -/
def program (r : Runner) (who : Chars → Nat → String → Run Unit) :
    Nat → Chars → List Chars → Run Unit
  | 0, name, _ => who name 126 "Too many levels of symbolic links"
  | n + 1, name, args => do
    let s ← get
    let path := (locate? s name).getD []
    match startOf s path with
    | .missing => who name 127 "not found"
    | .denied => who name 126 "Permission denied"
    | .script text =>
      match interpreter? text with
      | some (interpreter :: more) => program r who n interpreter (more ++ path :: args)
      | _ =>
        begin path args
        runText r false text
    | .system tool =>
      match Tool.find? tool with
      | some run => run args
      | none =>
        if shellNames.contains tool then shell r name args
        else match tool, args with
          | "echo", args => do
            let quiet := args.head? = some ['-', 'n']
            let plain := if quiet then args.drop 1 else args
            let _ ← write 1 (List.intercalate [' '] plain ++ if quiet then [] else ['\n'])
            result 0
          | "env", args => do
            let missing (name : Chars) (status : Nat) (_ : String) : Run Unit :=
              Tool.refuse "env" ('\'' :: name ++ charsOf "': No such file or directory") status
            match ← surroundings (args.length + 1) args with
            | [] =>
              let shown := (← get).exported.map fun (name, v) =>
                charsOf name ++ '=' :: (v.value.getD [] ++ ['\n'])
              let _ ← write 1 shown.flatten
              result 0
            | name :: args => program r missing n name args
          | "timeout", limit :: name :: args => do
            let s ← get
            match Tool.milliseconds? limit with
            | none => result 125
            | some time =>
              let last := min (s.now + time) (s.limit.getD (s.now + time))
              set { s with limit := some last }
              let stop ← attempt (program r who n name args)
              let t ← get
              set { t with limit := s.limit }
              match stop with
              | .error .hang =>
                waitUntil last
                result 124
              | stop => resume stop
          | "timeout", _ => result 125
          | "xargs", args => do
            let (os, words) := Tool.commandAfter args
            let text := (← readAll 0).getD []
            setStream 0 (some .nowhere)
            let mut failed := false
            for words in Tool.commandsOf os (words.headD (charsOf "echo")) text (words.drop 1) do
              child r (program r who n (words.headD []) (words.drop 1))
              if (← get).status ≠ 0 then failed := true
            result (if failed then 123 else 0)
          | "test", args => speakAs ['t', 'e', 's', 't'] false (Condition.test args)
          | "[", args => speakAs ['['] false (Condition.test args.dropLast)
          | "printf", args => speakAs (charsOf "printf") false (Builtin.printf args)
          | "which", names => do
            let s ← get
            let found := names.map (locate? s)
            Tool.put (Tool.joinLines (found.filterMap id))
            verdict (found.all Option.isSome && !names.isEmpty)
          | "pwd", _ => Tool.put ((← get).fullPath ++ ['\n'])
          | _, name :: args => program r who n name args
          | _, [] => result 125

/-- Tells that a command can not be run. -/
def cannotRun (name : Chars) (status : Nat) (why : String) : Run Unit := do
  complain (name ++ [':', ' '] ++ charsOf why)
  result status

/-- Runs a program in the place of the process, which ends with it. -/
def become (r : Runner) (name : Chars) (args : List Chars) : Run Unit := do
  program r cannotRun interpreterLimit name args

/-! ## Commands that run others -/

/-- Runs a file as a part of the script. -/
def runFile (r : Runner) (tested : Bool) (args : List Chars) : Run Unit := do
  match args with
  | [] => result 0
  | name :: _ =>
    let s ← get
    let directories := Text.splitAll ':' ((s.named? "PATH").getD [])
    let found := directories.find? fun d => s.files.isFile (s.pathOf (d ++ '/' :: name))
    let path := if name.contains '/' then some name else found.map fun d => d ++ '/' :: name
    match path with
    | none => failWith 2 (name ++ charsOf ": not found")
    | some path =>
    match ← openToRead (s.pathOf path) with
    | none => failWith 2 (charsOf "cannot open " ++ path ++ charsOf ": No such file")
    | some _ =>
      let text := (fileText? s.files (s.pathOf path)).getD []
      let line := s.line
      let stop ← attempt (speakAs name true (runText r tested text))
      modify fun s => { s with line }
      match stop with
      | .error .giveBack => return
      | stop => resume stop

/-- Sends a signal to a process. -/
def signal (r : Runner) (n process : Nat) : Run Bool := do
  let s ← get
  if process = State.mainProcess || process = s.number then
    if n = 0 then return true
    match s.traps.lookup (Signal.name n) with
    | some script =>
      let line := s.line
      let speaker := s.speaker
      if n ≠ 9 then
        modify fun s => { s with speaker := none }
        runText r true script
        modify fun t => { t with line, speaker, status := s.status }
        return true
    | none => pure ()
    if Signal.harmless.contains n then return true
    if n = 19 then throw .hang
    result (128 + n)
    throw (.killed process)
  else
    match s.jobs.find? fun j => j.number = process with
    | none => return false
    | some j =>
      let ended := (j.ends.map fun time => decide (time ≤ s.now)).getD false
      if n = 0 || Signal.harmless.contains n then return !ended
      if ended then return true
      let jobs := s.jobs.map fun k =>
        if k.number = process then { k with ends := some s.now, status := 128 + n } else k
      let kept (x : Sent) : Bool := x.process ≠ process || x.time ≤ s.now
      set { s with
        jobs
        sent := s.sent.filter kept
        gathered := s.gathered.map (List.filter kept) }
      return true

/-- The command `kill`. -/
def kill (r : Runner) (args : List Chars) : Run Unit := do
  match args with
  | ['-', 'l'] :: rest =>
    match rest.head?.bind Number.ofDigits? with
    | some n => say (charsOf (Signal.name (if 128 < n then n - 128 else n)) ++ ['\n'])
    | none => say (Tool.joinLines ((Signal.names.drop 1).map charsOf))
  | args =>
    let (name, targets) := match args with
      | ['-', 's'] :: name :: rest => (some name, rest)
      | ['-', '-'] :: rest => (none, rest)
      | ('-' :: name) :: rest => (some name, rest)
      | rest => (none, rest)
    match (name.map Signal.number?).getD (some 15) with
    | none => failWith 2 (charsOf "invalid signal number or name: " ++ name.getD [])
    | some n =>
      if targets.isEmpty then fail "Usage: kill [-s sigspec | -signum | -sigspec] [pid | job]..."
      result 0
      for target in targets do
        let s ← get
        let process := match target with
          | ['%', '1'] => s.children.getLast?
          | '%' :: _ => s.children.head?
          | ds => Number.ofDigits? ds
        let sent ← match process with
          | some process => signal r n process
          | none => pure false
        if !sent then
          complain (charsOf "No such process\n")
          result 1

/-- Says what a command is: briefly, or in words. -/
def describe (inWords : Bool) (name : Chars) : Run Unit := do
  let s ← get
  let text := String.ofList name
  let tell (brief : Chars) (words : String) : Run Unit :=
    say ((if inWords then name ++ charsOf words else brief) ++ ['\n'])
  if languageWords.contains text then tell name " is a shell keyword"
  else if let some meaning := s.aliases.lookup text then
    let brief := charsOf "alias " ++ Builtin.showAlias (text, meaning)
    tell brief s!" is an alias for {textOf meaning}"
  else if (s.functions.lookup text).isSome then tell name " is a shell function"
  else if specialCommands.contains text then tell name " is a special shell builtin"
  else if Builtin.isKnown text then tell name " is a shell builtin"
  else
    let path := (locate? s name).getD []
    match startOf s path with
    | .missing =>
      if inWords then say (name ++ charsOf ": not found\n")
      result 127
    | _ => tell path s!" is {String.ofList path}"

/-! ## Simple commands -/

/-- Expands the words of a command. After a command that sets variables, words that look like
settings stand for one text each. -/
def arguments (r : Runner) : Bool → List Word → Run (List Chars)
  | _, [] => return []
  | setting, w :: ws => do
    let texts ← match setting, assignment? w with
      | true, some (name, value) => do
        pure [charsOf name ++ '=' :: (← valueOfWord r value)]
      | _, _ => textsOfWord r w
    return texts ++ (← arguments r setting ws)

/-- Expands the words of a command, the first of which says what kind of command it is. -/
def wordsOfCommand (r : Runner) : List Word → Run (List Chars)
  | [] => return []
  | w :: ws => do
    match ← textsOfWord r w with
    | [] => wordsOfCommand r ws
    | name :: more =>
      if name = charsOf "command" then return name :: more ++ (← wordsOfCommand r ws)
      let setting := ["export", "readonly", "local"].contains (String.ofList name)
      return name :: more ++ (← arguments r setting ws)

/-- Gives variables their values. -/
def assignAll (r : Runner) (before : String → Run Unit) : List (String × Word) → Run Unit
  | [] => return
  | (name, w) :: rest => do
    let value ← valueOfWord r w
    before name
    setVariable name value
    assignAll r before rest

/-- Ends the process if a result that nobody tests is no success and the script wants that. -/
def checkResult (tested : Bool) : Run Unit := do
  let s ← get
  if !tested && s.status ≠ 0 && s.options.contains 'e' then throw .leave

/-- Runs a command by its name. `plainly` means that functions do not count and that no failure
ends the process. -/
def named (r : Runner) (tested plainly : Bool) : Nat → Chars → List Chars → Run Unit
  | 0, _, _ => throw .hang
  | n + 1, name, args => do
    let text := String.ofList name
    let special := specialCommands.contains text && !plainly
    let s ← get
    match if plainly then none else s.functions.lookup text with
    | some body => call r tested body args
    | none =>
      match Builtin.find? text with
      | some run => speakAs name special (run args)
      | none =>
        match text, args with
        | "eval", args => speakAs name special do
          let line := (← get).line
          runText r tested (List.intercalate [' '] args)
          modify fun s => { s with line }
        | ".", args => speakAs name special (runFile r tested args)
        | "exec", [] => result 0
        | "exec", program :: args => do
          speakAs name true (become r program args)
          throw .vanish
        | "type", args => do
          result 0
          let mut status := 0
          for arg in args do
            describe true arg
            if (← get).status ≠ 0 then status := 127
          result status
        | "kill", args => speakAs name false (kill r args)
        | "command", args =>
          match args.dropWhile fun arg => arg = ['-', 'p'] || arg = ['-', '-'] with
          | ['-', 'v'] :: rest =>
            match rest with
            | arg :: _ => describe false arg
            | [] => result 0
          | ['-', 'V'] :: rest =>
            match rest with
            | arg :: _ => describe true arg
            | [] => result 0
          | inner :: rest => named r tested true n inner rest
          | [] => result 0
        | _, args => child r (become r name args)

/-- Runs a simple command. -/
def simple (r : Runner) (tested : Bool) (line : Nat) (assignments : List (String × Word))
    (words : List Word) (redirections : List Redirection) : Run Unit := do
  modify fun s => { s with line, inWord := 0 }
  match ← wordsOfCommand r words with
  | [] =>
    redirected r redirections (pure ()) do
      assignAll r (fun _ => pure ()) assignments
      result (← get).inWord
  | name :: args =>
    let text := String.ofList name
    let special := specialCommands.contains text
    let mark (name : String) : Run Unit := do
      hide name
      Builtin.alterVariable name fun v => { v with exported := true }
    let run : Run Unit := named r tested false (args.length + 1) name args
    if text = "exec" && args.isEmpty then
      if !(← redirectAll r redirections) then
        result 2
        throw .fault
      assignAll r (fun _ => pure ()) assignments
      result 0
    else
      redirected r redirections (if special then throw .fault else pure ()) do
        if assignments.isEmpty then run
        else if special then
          assignAll r (fun _ => pure ()) assignments
          run
        else withHidden do
          assignAll r mark assignments
          run
  checkResult tested

/-! ## Commands made of others -/

/-- Runs a step as the body of a loop. -/
def inLoop (x : Run Unit) : Run Unit := do
  let loops := (← get).loops
  modify fun s => { s with loops := loops + 1 }
  let stop ← attempt x
  modify fun s => { s with loops }
  resume stop

/-- How a loop goes on after a step: whether it does. -/
def goesOn : Except Stop Unit → Run Bool
  | .ok _ => return true
  | .error (.endLoops n) => if n ≤ 1 then return false else throw (.endLoops (n - 1))
  | .error (.nextRound n) => if n ≤ 1 then return true else throw (.nextRound (n - 1))
  | .error stop => throw stop

/-- Goes through the rounds of a loop. `last` is the result of the last one. -/
def rounds (condition body : Run Unit) (whileTrue : Bool) : Nat → Nat → Run Unit
  | 0, _ => throw .hang
  | n + 1, last => do
    match ← attempt condition with
    | .ok _ =>
      if ((← get).status = 0) ≠ whileTrue then result last
      else if ← goesOn (← attempt body) then
        rounds condition body whileTrue n (← get).status
      else return
    | stop => if ← goesOn stop then rounds condition body whileTrue n last else result last

/-- Goes through texts that a variable gets one after the other. -/
def through (name : String) (body : Run Unit) : List Chars → Run Unit
  | [] => return
  | text :: texts => do
    setVariable name text
    if ← goesOn (← attempt body) then through name body texts else return

/-- Runs commands in order. -/
def inOrder (r : Runner) (tested : Bool) : List Command → Run Unit
  | [] => return
  | [c] => r.command tested c
  | c :: cs => do
    r.command tested c
    inOrder r tested cs

/-- Runs the first arm that has a pattern for a text. -/
def choose (r : Runner) (tested : Bool) (text : Chars) : List (List Word × Command) → Run Unit
  | [] => result 0
  | (patterns, body) :: arms => do
    if ← anyMatches r text patterns then
      match body with
      | .sequence [] => result 0
      | body => r.command tested body
    else choose r tested text arms

/-- Runs a command. -/
def command (r : Runner) (tested : Bool) : Command → Run Unit
  | .simple line assignments words redirections =>
    simple r tested line assignments words redirections
  | .redirected line c redirections => do
    modify fun s => { s with line }
    redirected r redirections (pure ()) (r.command tested c)
  | .sequence cs => inOrder r tested cs
  | .pipeline cs => do
    let s ← get
    let ends ← pipeline r s.now (cs.map (r.command tested))
    waitFor ends
    checkResult tested
  | .negated c => do
    r.command true c
    verdict ((← get).status ≠ 0)
  | .both a b => do
    r.command true a
    if (← get).status = 0 then r.command tested b
  | .either a b => do
    r.command true a
    if (← get).status ≠ 0 then r.command tested b
  | .background c => background r (r.command false c)
  | .branch condition yes no => do
    r.command true condition
    if (← get).status = 0 then r.command tested yes
    else match no with
      | .sequence [] => result 0
      | no => r.command tested no
  | .loop whileTrue condition body =>
    inLoop (rounds (r.command true condition) (r.command tested body) whileTrue roundLimit 0)
  | .each line name words body => do
    modify fun s => { s with line }
    let texts ← match words with
      | some ws => textsOfWords r ws
      | none => pure (← get).parameters
    result 0
    inLoop (through name (r.command tested body) texts)
  | .choice line subject arms => do
    modify fun s => { s with line }
    let text ← textOfWord r subject
    choose r tested text arms
  | .subshell line c => do
    modify fun s => { s with line }
    child r (r.command tested c)
    checkResult tested
  | .define name body => do
    modify fun s =>
      { s with functions := (name, body) :: s.functions.filter fun f => f.1 != name }
    result 0

end Run

end AudioHost.Shell
