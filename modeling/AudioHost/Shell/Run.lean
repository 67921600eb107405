import AudioHost.Shell.State

/-!
Steps of a running script: how they stop, how time passes, and how streams are read and written.
-/

namespace AudioHost.Shell

/-- How a command stops what runs around it. -/
inductive Stop where
  /-- The process ends. -/
  | leave
  /-- The process ends, and nothing is run at its end. -/
  | vanish
  /-- Some loops end. -/
  | endLoops (loops : Nat)
  /-- The outermost of some loops goes on. -/
  | nextRound (loops : Nat)
  /-- The function ends. -/
  | giveBack
  /-- Something went wrong that ends the process, if no command stands in between. -/
  | fault
  /-- Nothing more happens. -/
  | hang
  /-- Another process ended this one. -/
  | killed (process : Nat)
deriving DecidableEq, Repr

/-- A step of a running script. -/
abbrev Run := ExceptT Stop (StateM State)

namespace Run

/-- Runs a step and says how it stopped. -/
def attempt {α : Type} (x : Run α) : Run (Except Stop α) := fun s =>
  let (r, t) := x s
  (.ok r, t)

/-- Does again what an attempt ended with. -/
def resume {α : Type} : Except Stop α → Run α
  | .ok a => pure a
  | .error stop => throw stop

/-- Repeats a step for as long as it says so. A step that does not end hangs. -/
def whileTrue : Nat → Run Bool → Run Unit
  | 0, _ => throw .hang
  | n + 1, step => do if ← step then whileTrue n step

/-- The most rounds of a loop. -/
def roundLimit : Nat := 100000

/-- Sets the result. -/
def result (status : Nat) : Run Unit := modify fun s => { s with status }

/-- The result of a test. -/
def verdict (b : Bool) : Run Unit := result (if b then 0 else 1)

/-! ## Time -/

/-- Waits up to a time. -/
def waitUntil (time : Nat) : Run Unit := do
  let s ← get
  let now := max s.now time
  match s.limit with
  | some limit => if limit ≤ now then throw .hang else set { s with now }
  | none => set { s with now }

/-- Waits for an event, which may never come. -/
def waitFor : Option Nat → Run Unit
  | some time => waitUntil time
  | none => throw .hang

/-! ## Writing -/

/-- The file that a path leads to holds other bytes, or was made; else nothing is done. -/
def putFile (p : Path) (cs : Chars) : Run Unit :=
  modify fun s => { s with files := s.files.writeFile p (.bytes (toBytes cs)) false }

/-- The bytes of a file. -/
def fileText? (files : FileTree) (p : Path) : Option Chars :=
  match files.content? p with
  | some (.bytes bs) => some (ofBytes bs)
  | some _ => some []
  | none => none

/-- Writes a text to a stream, and says whether that is possible. -/
def write (stream : Nat) (cs : Chars) : Run Bool := do
  let s ← get
  match s.streams.lookup stream with
  | none => return false
  | some (.source _) => return cs.isEmpty
  | some .nowhere => return true
  | some .outward =>
    if cs.isEmpty then return true
    set { s with sent := Sent.insert ⟨s.now, s.number, cs⟩ s.sent }
    return true
  | some (.gathered n) =>
    if cs.isEmpty then return true
    let texts := Sent.insert ⟨s.now, s.number, cs⟩ (s.gathered[n]?.getD [])
    set { s with gathered := s.gathered.set n texts }
    return true
  | some (.file p) =>
    if cs.isEmpty then return true
    putFile p ((fileText? s.files p).getD [] ++ cs)
    return true

/-- Gives a message on the stream for messages. -/
def remark (cs : Chars) : Run Unit := do
  let _ ← write 2 cs

/-- Gives a message in the name of the script. -/
def complain (message : Chars) : Run Unit := do
  let s ← get
  let speaker := match s.speaker with
    | some cs => cs ++ [':', ' ']
    | none => []
  remark (s.zero ++ [':', ' '] ++ digits s.line ++ [':', ' '] ++ speaker ++ message ++ ['\n'])

/-- Fails with a message and a result. -/
def failWith {α : Type} (status : Nat) (message : Chars) : Run α := do
  complain message
  result status
  throw .fault

/-- Fails with a message. -/
def fail {α : Type} (message : String) : Run α := failWith 2 (charsOf message)

/-- Writes what a command has to say, and whether that is possible is its result. -/
def say (cs : Chars) : Run Unit := do
  if ← write 1 cs then result 0
  else
    let s ← get
    complain (s.speaker.getD [] ++ charsOf ": I/O error")
    result 1

/-! ## Reading -/

/-- Adds something to read from. -/
def newSource (source : Source) : Run Stream := do
  let s ← get
  set { s with sources := s.sources ++ [source] }
  return .source s.sources.length

/-- What a stream is read from. -/
def source? (stream : Nat) : Run (Option (Nat × Source)) := do
  let s ← get
  match s.streams.lookup stream with
  | some (.source n) => return s.sources[n]?.map fun x => (n, x)
  | some .nowhere => return some (s.sources.length, ⟨[], some 0⟩)
  | _ => return none

/-- Keeps what is left to read. -/
def keepSource (n : Nat) (source : Source) : Run Unit :=
  modify fun s => { s with sources := s.sources.set n source }

/-- Reads all that comes from a stream. -/
def readAll (stream : Nat) : Run (Option Chars) := do
  match ← source? stream with
  | none => return none
  | some (n, source) =>
    keepSource n { source with rest := [] }
    match source.rest.getLast? with
    | some (_, time) => waitUntil time
    | none => pure ()
    waitFor source.closes
    return some (source.rest.map (·.1))

/-! ## Streams -/

/-- Makes a stream lead somewhere. -/
def setStream (stream : Nat) (target : Option Stream) : Run Unit :=
  modify fun s =>
    let others := s.streams.filter fun x => x.1 != stream
    match target with
    | some target => { s with streams := (stream, target) :: others }
    | none => { s with streams := others }

/-- The number of the stream that a device stands for. -/
def streamOfDevice? (p : Path) : Option Nat :=
  match p.text with
  | "/dev/stdin" => some 0
  | "/dev/stdout" => some 1
  | "/dev/stderr" => some 2
  | text =>
    (Text.afterPrefix? "/dev/fd/".toList text.toList).bind fun cs => (String.ofList cs).toNat?

/-- Opens a file to read it. -/
def openToRead (p : Path) : Run (Option Stream) := do
  let s ← get
  if p.text = "/dev/null" then return some .nowhere
  match streamOfDevice? p with
  | some n => return s.streams.lookup n
  | none =>
    match fileText? s.files p with
    | some cs => return some (← newSource (.ofChars s.now cs))
    | none =>
      if s.files.isDirectory p then return some (← newSource ⟨[], some s.now⟩) else return none

/-- A file can be made at a path, or is there. -/
def canWrite (files : FileTree) (p : Path) : Bool :=
  let directory := p.parent?.getD ⟨""⟩
  files.isFile p || (!files.reaches p && !p.text.isEmpty && !p.isAbsolute &&
    p.chars.getLast? ≠ some '/' && (directory.text.isEmpty || files.isDirectory directory))

/-- Opens a file to write to it. -/
def openToWrite (p : Path) (keeps : Bool) : Run (Option Stream) := do
  let s ← get
  if p.text = "/dev/null" || p.text = "/dev/tty" then return some .nowhere
  match streamOfDevice? p with
  | some n => return s.streams.lookup n
  | none =>
    if !canWrite s.files p then return none
    if !keeps || !s.files.isFile p then putFile p []
    return some (.file p)

end Run

end AudioHost.Shell
