import AudioHost.Files.Tree
import AudioHost.Shell.Alias
import AudioHost.Text.Utf8

/-!
What a running script knows, and the world that it runs in.

Time is counted in milliseconds. A process that runs beside others is run at once and to its end;
what it writes bears the times at which it is written, so that texts of several processes come in
the right order.
-/

namespace AudioHost.Shell

/-! ## Bytes -/

/-- Bytes as characters. -/
def ofBytes (bytes : List UInt8) : Chars := bytes.map fun b => Char.ofNat b.toNat

/-- Characters as bytes. -/
def toBytes (cs : Chars) : List UInt8 := cs.map fun c => UInt8.ofNat c.toNat

/-- The text of a row of bytes. -/
def textOf (cs : Chars) : String := Utf8.decodeLossy (toBytes cs)

/-- The row of bytes of a text. -/
def charsOf (s : String) : Chars := ofBytes (Utf8.encode s)

/-- A number in digits. -/
def digits (n : Nat) : Chars := (toString n).toList

/-! ## Streams -/

/-- A text that a process wrote at some time. -/
structure Sent where
  time : Nat
  process : Nat
  text : Chars
deriving DecidableEq, Repr

/-- Adds a text to those that were written, latest first. A text that is written earlier than
others comes before them. -/
def Sent.insert (x : Sent) : List Sent → List Sent
  | [] => [x]
  | y :: ys => if x.time < y.time then y :: x.insert ys else x :: y :: ys

/-- What can be read: characters with the times at which they come. -/
structure Source where
  rest : List (Char × Nat)
  /-- The time at which nothing more can come, if there is one. -/
  closes : Option Nat
deriving DecidableEq, Repr

/-- A text that is there at some time. -/
def Source.ofChars (time : Nat) (cs : Chars) : Source := ⟨cs.map fun c => (c, time), some time⟩

/-- What was written, latest first, to be read by others. -/
def Source.ofSent (texts : List Sent) (closes : Option Nat) : Source :=
  ⟨texts.reverse.flatMap fun x => x.text.map fun c => (c, x.time), closes⟩

/-- What a stream of a process leads to. -/
inductive Stream where
  | source (number : Nat)
  /-- What is written comes out. -/
  | outward
  | nowhere
  /-- What is written is gathered for another process. -/
  | gathered (number : Nat)
  /-- What is written is added to a file. -/
  | file (p : Path)
deriving DecidableEq, Repr

/-! ## Processes -/

/-- A process that runs beside the one that started it. -/
structure Job where
  number : Nat
  /-- The time at which it ends, if it does. -/
  ends : Option Nat
  status : Nat
  /-- The streams that it keeps open. -/
  streams : List Stream
deriving DecidableEq, Repr

/-- A variable. -/
structure Variable where
  value : Option Chars
  /-- Other programs get the variable. -/
  exported : Bool
  /-- The variable can not be changed. -/
  fixed : Bool
deriving DecidableEq, Repr

/-- What all processes share. -/
structure World where
  files : FileTree
  now : Nat
  /-- The time at which everything stops. -/
  limit : Option Nat
  /-- What came out, latest first. -/
  sent : List Sent
  sources : List Source
  gathered : List (List Sent)
  /-- The processes that run beside others, latest first. -/
  jobs : List Job

/-- What a process has for itself. -/
structure Process where
  number : Nat
  /-- The directory that it works in. -/
  directory : Path
  /-- The directory that it worked in before. -/
  lastDirectory : Path
  /-- The permissions that new files do not get. -/
  mask : Nat
  streams : List (Nat × Stream)
  bindings : List (String × Variable)
  /-- For each function that runs, what its own variables stand in place of. -/
  hidden : List (List (String × Option Variable))
  functions : List (String × Command)
  aliases : Aliases
  /-- The name of the script. -/
  zero : Chars
  parameters : List Chars
  /-- The result of the last command; zero means success. -/
  status : Nat
  /-- The result of the last command in a word. -/
  inWord : Nat
  /-- What is run at an event. -/
  traps : List (String × Chars)
  /-- The letters of the options that are on. -/
  options : List Char
  /-- The processes that it started to run beside it, latest first. -/
  children : List Nat
  /-- The loops that run in the current function. -/
  loops : Nat
  /-- The functions that run. -/
  calls : Nat
  /-- The line of the current command. -/
  line : Nat
  /-- The command in whose name messages are given. -/
  speaker : Option Chars
  /-- The place in an argument with several options. -/
  optionPlace : Nat

/-- A running script. -/
structure State extends World, Process

namespace State

/-- The number of the process that runs the script. -/
def mainProcess : Nat := 4242

/-- The variable of a name. -/
def variableNamed? (s : State) (name : String) : Option Variable := s.bindings.lookup name

/-- Puts a variable in place of the one of its name. -/
def putVariable (s : State) (name : String) (v : Option Variable) : State :=
  let others := s.bindings.filter fun w => w.1 != name
  match v with
  | some v => { s with bindings := (name, v) :: others }
  | none => { s with bindings := others }

/-- The value of a variable. -/
def named? (s : State) (name : String) : Option Chars := (s.variableNamed? name).bind Variable.value

/-- The characters that separate fields. -/
def separators (s : State) : Chars := (s.named? "IFS").getD [' ', '\t', '\n']

/-- What is put between parameters that are joined. -/
def joint (s : State) : Chars :=
  match s.variableNamed? "IFS" with
  | some ⟨some cs, _, _⟩ => cs.take 1
  | _ => [' ']

/-- The letters of the options, in the order in which they are listed in a value. -/
def optionLetters : Chars := "pubaCEVvxsnmiIfe".toList

/-- The value of a variable or a parameter. -/
def value? (s : State) (name : String) : Option Chars :=
  match name with
  | "?" => some (digits s.status)
  | "#" => some (digits s.parameters.length)
  | "$" => some (digits mainProcess)
  | "!" => s.children.head?.map digits
  | "-" => some (optionLetters.filter s.options.contains)
  | "@" => if s.parameters.isEmpty then none else some (List.intercalate [' '] s.parameters)
  | "*" => if s.parameters.isEmpty then none else some (List.intercalate s.joint s.parameters)
  | "0" => some s.zero
  | name =>
    match name.toNat? with
    | some n => s.parameters[n - 1]?
    | none => s.named? name

/-- The full path of the directory at the top of the tree of files. -/
def topPath : Chars := "/srv/audio".toList

/-- Directories outside of the tree that are surely there. -/
def outsideDirectories : List String :=
  ["/", "/bin", "/dev", "/etc", "/home", "/lib", "/proc", "/root", "/tmp", "/usr", "/usr/bin",
    "/usr/lib", "/var"]

/-- The full path of the directory that the process works in. -/
def fullPath (s : State) : Chars :=
  if s.directory.isAbsolute then charsOf s.directory.text
  else if s.directory.text.isEmpty then topPath
  else topPath ++ '/' :: charsOf s.directory.text

/-- The path that a row of bytes stands for where the process works. -/
def pathOf (s : State) (cs : Chars) : Path :=
  let inTree := Text.afterPrefix? topPath cs
  match inTree with
  | some ('/' :: cs) => ⟨textOf ('.' :: '/' :: cs)⟩
  | some [] => ⟨"."⟩
  | _ =>
    let p : Path := ⟨textOf cs⟩
    if cs.isEmpty || p.isAbsolute || s.directory.text.isEmpty then p
    else s.directory.join p.text

/-- The variables that other programs get. -/
def exported (s : State) : List (String × Variable) :=
  s.bindings.filter fun v => v.2.exported && v.2.value.isSome

end State

end AudioHost.Shell
