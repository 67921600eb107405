import AudioHost.Shell.Alias

/-!
Reading shell scripts.

A script is read and run one line at a time, or several lines when a command goes on.
-/

namespace AudioHost.Shell

/-! ## Blanks and marks -/

/-- Skips blanks and remarks, and with them line ends if `lines` says so. -/
def skipFrom (inRemark lines : Bool) : Chars → Chars
  | [] => []
  | '\n' :: cs => if lines then skipFrom false lines cs else '\n' :: cs
  | '\\' :: '\n' :: cs =>
    if !inRemark then skipFrom false lines cs
    else if lines then skipFrom false lines cs
    else '\n' :: cs
  | c :: cs =>
    if inRemark then skipFrom true lines cs
    else if c = ' ' || c = '\t' then skipFrom false lines cs
    else if c = '#' then skipFrom true lines cs
    else c :: cs

/-- Skips blanks and remarks. -/
def skipBlanks : Reading Unit := modify (skipFrom false false)

/-- Skips blanks, remarks and line ends. -/
def skipLines : Reading Unit := modify (skipFrom false true)

/-- The marks that are no words, longer ones first. -/
def operators : List String :=
  ["<<-", "&&", "||", ";;", ">>", "<<", ">&", "<&", ">|", "<>", ";", "&", "|", "(", ")", "<", ">"]

/-- The mark in front. -/
def operatorInFront? (cs : Chars) : Option (String × Chars) :=
  operators.findSome? fun o => (Text.afterPrefix? o.toList cs).map fun rest => (o, rest)

/-- Takes a certain mark from the front if it is there. -/
def operator (o : String) : Reading Bool := do
  skipBlanks
  match operatorInFront? (← get) with
  | some (p, rest) => if p = o then set rest; return true else return false
  | none => return false

/-- The plain word in front. -/
def plainWord (cs : Chars) : Chars := cs.takeWhile fun c => !endsWord c

/-- Takes a certain plain word from the front if it is there. -/
def keyword (text : String) : Reading Bool := do
  skipBlanks
  let cs ← get
  let front := plainWord cs
  if front = text.toList then set (cs.drop front.length); return true else return false

/-- Takes a certain plain word from the front. -/
def expectKeyword (text : String) : Reading Unit := do
  if !(← keyword text) then failure

/-- The words that end a list of commands. -/
def closers : List String := ["then", "else", "elif", "fi", "do", "done", "esac", "\x7d"]

/-- A list of commands ends here. -/
def atClose (cs : Chars) : Bool :=
  match cs with
  | [] => true
  | ')' :: _ => true
  | ';' :: ';' :: _ => true
  | cs => closers.contains (String.ofList (plainWord cs))

/-! ## Texts after a line -/

/-- Cuts a text at the end of its first line, which no quotes hide. `quote` is the quote that is
open, or a line end in a remark. -/
def lineEnd (quote : Option Char) : Chars → Chars × Option Chars
  | [] => ([], none)
  | '\\' :: c :: cs =>
    if quote = some '\'' || quote = some '\n' then
      let (front, back) := lineEnd quote (c :: cs)
      ('\\' :: front, back)
    else
      let (front, back) := lineEnd quote cs
      ('\\' :: c :: front, back)
  | ' ' :: '#' :: cs =>
    let (front, back) := lineEnd (quote.getD '\n') cs
    (' ' :: '#' :: front, back)
  | c :: cs =>
    if c = '\n' && (quote = none || quote = some '\n') then ([], some cs)
    else
      let quote :=
        if quote = some c then none
        else if quote = none && (c = '"' || c = '\'') then some c
        else quote
      let (front, back) := lineEnd quote cs
      (c :: front, back)

/-- The lines up to one that is a mark, and the lines after it if there is such a line. -/
def linesUntil (tabs : Bool) (mark : Chars) : List Chars → List Chars × Option (List Chars)
  | [] => ([], none)
  | line :: lines =>
    let line := if tabs then line.dropWhile (· = '\t') else line
    if line = mark then ([], some lines)
    else let (body, rest) := linesUntil tabs mark lines; (line :: body, rest)

/-- Takes the lines that follow the current line, up to one that is a mark. -/
def takeBody (tabs : Bool) (mark : Chars) : Reading Chars := do
  let (front, back) := lineEnd none (← get)
  let (body, rest) := linesUntil tabs mark (Text.splitAll '\n' (back.getD []))
  match back, rest with
  | some _, some rest =>
    set (front ++ '\n' :: List.intercalate ['\n'] rest)
    return body.flatMap (· ++ ['\n'])
  | some _, none =>
    set (front ++ ['\n'])
    return List.intercalate ['\n'] body
  | none, _ =>
    set front
    return []

/-- The characters of a word that has no values in it, and whether some are quoted. -/
def fixedText? : Word → Option (Chars × Bool)
  | [] => some ([], false)
  | .plain cs :: ps => (fixedText? ps).map fun (ds, q) => (cs ++ ds, q)
  | .quoted cs :: ps => (fixedText? ps).map fun (ds, _) => (cs ++ ds, true)
  | _ => none

/-! ## Parts of simple commands -/

/-- The assignment that a word is: a name, a sign of equality and the rest. -/
def assignment? : Word → Option (String × Word)
  | .plain cs :: rest =>
    match Text.splitFirst? '=' cs with
    | some (name, value) =>
      if isName name then
        some (String.ofList name, if value.isEmpty then rest else .plain value :: rest)
      else none
    | none => none
  | _ => none

/-- A redirection of a stream by a mark to a word. -/
def redirectionOf? (stream : Option Nat) (o : String) (w : Word) : Option Redirection :=
  match o with
  | "<" => some (.input (stream.getD 0) w)
  | "<>" => some (.both (stream.getD 0) w)
  | ">" => some (.output (stream.getD 1) false false w)
  | ">|" => some (.output (stream.getD 1) false true w)
  | ">>" => some (.output (stream.getD 1) true false w)
  | ">&" => some (.same (stream.getD 1) w)
  | "<&" => some (.same (stream.getD 0) w)
  | _ => none

/-- Takes the number of a stream from the front: one digit right before a redirection. -/
def streamInFront : Chars → Option Nat × Chars
  | c :: d :: cs =>
    if c.isDigit && (d = '<' || d = '>') then (some (c.toNat - '0'.toNat), d :: cs)
    else (none, c :: d :: cs)
  | cs => (none, cs)

/-- Reads a redirection, if there is one. -/
def redirection? (script : Reading (List Command)) : Reading (Option Redirection) := do
  skipBlanks
  let (stream, rest) := streamInFront (← get)
  match operatorInFront? rest with
  | none => return none
  | some (o, rest) =>
    if ["<<", "<<-"].contains o then
      set rest
      skipBlanks
      let (mark, quoted) ← liftM (fixedText? (← word script))
      let body ← takeBody (o = "<<-") mark
      let content ←
        if quoted then pure [.quoted body]
        else
          let back ← get
          set body
          let ps ← pieces script (body.length + 2) .body
          set back
          pure ps
      return some (.text (stream.getD 0) content)
    else if (redirectionOf? stream o []).isSome then
      set rest
      skipBlanks
      return redirectionOf? stream o (← word script)
    else return none

/-- Reads all redirections that follow. -/
def redirections (script : Reading (List Command)) : Nat → Reading (List Redirection)
  | 0 => return []
  | n + 1 => do
    match ← redirection? script with
    | some r => return r :: (← redirections script n)
    | none => return []

/-- The parts of a simple command. -/
structure Parts where
  assignments : List (String × Word)
  words : List Word
  redirections : List Redirection

/-- The parts in the opposite order. -/
def Parts.reverse (p : Parts) : Parts :=
  ⟨p.assignments.reverse, p.words.reverse, p.redirections.reverse⟩

/-- Reads the parts of a simple command, in reverse. -/
def parts (aliases : Aliases) (script : Reading (List Command)) : Nat → Parts → Reading Parts
  | 0, p => return p
  | n + 1, p => do
    if p.words.isEmpty && !p.assignments.isEmpty then modify aliases.applied
    match ← redirection? script with
    | some r => parts aliases script n { p with redirections := r :: p.redirections }
    | none =>
      if ((← get).head?.map endsWord).getD true then return p
      else
        let w ← word script
        match p.words, assignment? w with
        | [], some a => parts aliases script n { p with assignments := a :: p.assignments }
        | _, _ => parts aliases script n { p with words := w :: p.words }

/-! ## Compound commands -/

/-- The commands that are part of the shell in a way that no function can take their place. -/
def specialCommands : List String :=
  [".", ":", "break", "continue", "eval", "exec", "exit", "export", "local", "readonly",
    "return", "set", "shift", "times", "trap", "unset"]

/-- What is known of a script that is read. -/
structure Scope where
  /-- The number of its line ends. -/
  lineEnds : Nat
  aliases : Aliases

/-- The number of the line at which the rest of a script begins. -/
def Scope.lineOf (scope : Scope) (rest : Chars) : Nat :=
  scope.lineEnds + 1 - rest.count '\n'

/-- Reads words up to the end of a line. -/
def wordsUntilEnd (script : Reading (List Command)) : Nat → Reading (List Word)
  | 0 => return []
  | n + 1 => do
    skipBlanks
    if ((← get).head?.map endsWord).getD true then return []
    else
      let w ← word script
      return w :: (← wordsUntilEnd script n)

/-- Reads the patterns of an arm, up to its bracket. -/
def patterns (script : Reading (List Command)) : Nat → Reading (List Word)
  | 0 => failure
  | n + 1 => do
    skipBlanks
    let w ← word script
    if ← operator "|" then return w :: (← patterns script n)
    else if ← operator ")" then return [w]
    else failure

/-- Adds the redirections that follow a compound command. -/
def withRedirections (scope : Scope) (script : Reading (List Command)) (c : Command) :
    Reading Command := do
  let line := scope.lineOf (← get)
  match ← redirections script ((← get).length + 1) with
  | [] => return c
  | rs => return .redirected line c rs

mutual

/-- Reads commands up to the end of a list, which may have to hold one. -/
def commands (scope : Scope) : Nat → Bool → Reading (List Command)
  | 0, _ => failure
  | n + 1, mayBeEmpty => do
    skipLines
    if atClose (← get) then
      if mayBeEmpty then return [] else failure
    else
      let c ← chain scope n
      if ← operator ";" then return c :: (← commands scope n true)
      else if ← operator "&" then return .background c :: (← commands scope n true)
      else if (← get).head? = some '\n' then return c :: (← commands scope n true)
      else return [c]

/-- Reads commands that depend on one another. -/
def chain (scope : Scope) : Nat → Reading Command
  | 0 => failure
  | n + 1 => do
    let c ← pipe scope n
    linked scope n c

/-- Reads what is linked to a command. -/
def linked (scope : Scope) : Nat → Command → Reading Command
  | 0, _ => failure
  | n + 1, c => do
    if ← operator "&&" then
      skipLines
      let d ← pipe scope n
      linked scope n (.both c d)
    else if ← operator "||" then
      skipLines
      let d ← pipe scope n
      linked scope n (.either c d)
    else return c

/-- Reads a pipeline. -/
def pipe (scope : Scope) : Nat → Reading Command
  | 0 => failure
  | n + 1 => do
    if ← keyword "!" then return .negated (← stages scope n) else stages scope n

/-- Reads commands that read what others write. -/
def stages (scope : Scope) : Nat → Reading Command
  | 0 => failure
  | n + 1 => do
    let c ← command scope n
    if ← operator "|" then
      skipLines
      match ← stages scope n with
      | .pipeline cs => return .pipeline (c :: cs)
      | d => return .pipeline [c, d]
    else return c

/-- Reads one command. -/
def command (scope : Scope) : Nat → Reading Command
  | 0 => failure
  | n + 1 => do
    skipBlanks
    let line := scope.lineOf (← get)
    modify scope.aliases.applied
    skipBlanks
    let cs ← get
    let inner := commands scope n true
    let close (c : Command) : Reading Command := withRedirections scope inner c
    if ← operator "(" then
      let cs ← commands scope n false
      if !(← operator ")") then failure
      close (.subshell line (.sequence cs))
    else
      let front := String.ofList (plainWord cs)
      let rest := cs.drop front.length
      match front with
      | "if" => set rest; close (← branch scope n)
      | "while" => set rest; close (← loop scope n true)
      | "until" => set rest; close (← loop scope n false)
      | "for" => set rest; close (← each scope n)
      | "case" => set rest; close (← choice scope n)
      | "\x7b" =>
        set rest
        let cs ← commands scope n false
        expectKeyword "\x7d"
        close (.sequence cs)
      | _ =>
        if closers.contains front || front = "!" || front = "in" then failure
        else simple scope n

/-- Reads a simple command, or the definition of a function. -/
def simple (scope : Scope) : Nat → Reading Command
  | 0 => failure
  | n + 1 => do
    let line := scope.lineOf (← get)
    let inner := commands scope n true
    match (← parts scope.aliases inner ((← get).length + 1) ⟨[], [], []⟩).reverse with
    | ⟨[], [], []⟩ => failure
    | ⟨[], [w], []⟩ =>
      if ← operator "(" then
        if !(← operator ")") then failure
        match w with
        | [.plain name] =>
          if !isName name || specialCommands.contains (String.ofList name) then failure
          skipLines
          return .define (String.ofList name) (← command scope n)
        | _ => failure
      else return .simple line [] [w] []
    | p => return .simple line p.assignments p.words p.redirections

/-- Reads a branch after its first word. -/
def branch (scope : Scope) : Nat → Reading Command
  | 0 => failure
  | n + 1 => do
    let condition ← commands scope n false
    expectKeyword "then"
    let yes ← commands scope n false
    if ← keyword "elif" then
      return .branch (.sequence condition) (.sequence yes) (← branch scope n)
    else if ← keyword "else" then
      let no ← commands scope n false
      expectKeyword "fi"
      return .branch (.sequence condition) (.sequence yes) (.sequence no)
    else
      expectKeyword "fi"
      return .branch (.sequence condition) (.sequence yes) (.sequence [])

/-- Reads the body of a loop. -/
def body (scope : Scope) : Nat → Reading Command
  | 0 => failure
  | n + 1 => do
    expectKeyword "do"
    let cs ← commands scope n false
    expectKeyword "done"
    return .sequence cs

/-- Reads a loop after its first word. -/
def loop (scope : Scope) : Nat → Bool → Reading Command
  | 0, _ => failure
  | n + 1, whileTrue => do
    let condition ← commands scope n false
    return .loop whileTrue (.sequence condition) (← body scope n)

/-- Reads a loop over words after its first word. -/
def each (scope : Scope) : Nat → Reading Command
  | 0 => failure
  | n + 1 => do
    let line := scope.lineOf (← get)
    let inner := commands scope n true
    skipBlanks
    match ← word inner with
    | [.plain name] =>
      if !isName name then failure
      let name := String.ofList name
      skipLines
      if ← keyword "in" then
        let ws ← wordsUntilEnd inner ((← get).length + 1)
        if !(← operator ";") && (← get).head? ≠ some '\n' then failure
        skipLines
        return .each line name (some ws) (← body scope n)
      else
        let _ ← operator ";"
        skipLines
        return .each line name none (← body scope n)
    | _ => failure

/-- Reads a choice after its first word. -/
def choice (scope : Scope) : Nat → Reading Command
  | 0 => failure
  | n + 1 => do
    let line := scope.lineOf (← get)
    skipBlanks
    let w ← word (commands scope n true)
    skipLines
    expectKeyword "in"
    return .choice line w (← arms scope n)

/-- Reads the arms of a choice and its last word. -/
def arms (scope : Scope) : Nat → Reading (List (List Word × Command))
  | 0 => failure
  | n + 1 => do
    skipLines
    if ← keyword "esac" then return []
    let _ ← operator "("
    let ws ← patterns (commands scope n true) ((← get).length + 1)
    let cs ← commands scope n true
    if ← operator ";;" then return (ws, .sequence cs) :: (← arms scope n)
    else
      expectKeyword "esac"
      return [(ws, .sequence cs)]

end

/-! ## Scripts -/

/-- Reads the commands of a line, and of the lines that they go on in. -/
def lineOfCommands (scope : Scope) (n : Nat) : Nat → Reading (List Command)
  | 0 => failure
  | m + 1 => do
    skipBlanks
    match ← get with
    | [] => return []
    | '\n' :: rest =>
      set rest
      return []
    | _ =>
      let c ← chain scope n
      if ← operator ";" then return c :: (← lineOfCommands scope n m)
      else if ← operator "&" then return .background c :: (← lineOfCommands scope n m)
      else match ← get with
        | [] => return [c]
        | '\n' :: rest =>
          set rest
          return [c]
        | _ => failure

/-- How deep commands can be nested in one another. -/
def nestingLimit : Nat := 20000

/-- Reads one line of a script: its commands, and the rest of the script. -/
def readLine? (scope : Scope) (rest : Chars) : Option (List Command × Chars) :=
  let length := (scope.aliases.map fun a => a.2.length).foldl (· + ·) rest.length
  (lineOfCommands scope (min nestingLimit (16 * length + 16)) (length + 1)).run rest

end AudioHost.Shell
