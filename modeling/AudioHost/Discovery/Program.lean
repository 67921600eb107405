import AudioHost.Discovery.Checker
import AudioHost.Discovery.SearchPath
import AudioHost.Discovery.Supervisor
import AudioHost.Shell.Script

/-!
Starting the programs that files hold.

A program is started with one argument and some lines of input. What it writes is seen as lines
that have to come in time.
-/

namespace AudioHost

/-- A program. -/
inductive Program where
  | checker
  /-- A program of the system, with the arguments that it gets first. -/
  | system (path : Shell.Chars) (arguments : List Shell.Chars)
  /-- A program that ends at once. -/
  | silent
deriving DecidableEq, Repr

namespace Program

/-! ## Which program a file holds -/

/-- The system's words for a file that is no program. -/
def noProgram : String := "Exec format error (os error 8)"

/-- What the system says of a path with a character that ends texts. -/
def brokenPath : String := "nul byte found in provided data"

/-- The bytes of a path. -/
def bytesOf (p : Path) : Shell.Chars := Shell.charsOf p.text

/-- The program that a path leads to, or why there is none. A script is run by the program that its
first line names, which can be a script again, but not too often. A path without a slash names a
program of the system. -/
def find (files : FileTree) : Nat → Path → Except String Program
  | 0, _ => .error LookupError.tooManyLinks.message
  | n + 1, p =>
    let path := bytesOf p
    if p.chars.contains (Char.ofNat 0) then .error brokenPath
    else if !p.chars.contains '/' && Shell.Run.isProgram p.text then
      .ok (.system (Shell.charsOf "/usr/bin/" ++ path) [])
    else if !p.chars.contains '/' then .error LookupError.notFound.message
    else if (Shell.Run.systemProgram? path).isSome then .ok (.system path [])
    else match files.find p with
      | .error e => .error e.message
      | .ok place => match files.entryAt place with
        | none => .error LookupError.notFound.message
        | some (.file .checker true) => .ok .checker
        | some (.file (.library _) true) => .ok .silent
        | some (.file (.bytes bytes) true) =>
          match Shell.Run.interpreter? (Shell.ofBytes bytes) with
          | some (name :: arguments) =>
            match interpreter files n ⟨Shell.textOf name⟩ with
            | .ok (.system name more) => .ok (.system name (more ++ arguments ++ [path]))
            | other => other
          | _ => .error noProgram
        | some _ => .error LookupError.permissionDenied.message
where
  /-- The program that runs a script. It is named by its path. -/
  interpreter (files : FileTree) (n : Nat) (p : Path) : Except String Program :=
    find files n (if p.chars.contains '/' then p else ⟨"./" ++ p.text⟩)

/-! ## What it writes -/

/-- The bytes that come before a time in which no line ends gets too long, and the end of that
time if there is one. `last` is the time of the last line. -/
def inTime (patience : Nat) (ends : Option Nat) :
    Nat → List (Nat × Shell.Chars) → List UInt8 × Option Nat
  | last, [] =>
    let ended := (ends.map fun time => decide (time < last + patience)).getD false
    ([], if ended then none else some (last + patience))
  | last, (time, cs) :: more =>
    if last + patience ≤ time then ([], some (last + patience))
    else
      let (bytes, late) := inTime patience ends (if cs.contains '\n' then time else last) more
      (Shell.toBytes cs ++ bytes, late)

/-- The input that request lines make. -/
def inputOf (requests : List String) : Shell.Chars :=
  Shell.charsOf (String.join (requests.map (· ++ "\n")))

/-- Runs a program with an argument on requests. A line has to come within `patience`
milliseconds; when one does not, the program can be killed at that time or be left alone. -/
def run (program : Program) (env : Environment) (patience : Nat) (symbol : String)
    (requests : List String) (m : Machine) : Started Machine :=
  if patience = 0 then ⟨⟨[], .stalled⟩, m, some m⟩
  else match program with
    | .silent => ⟨⟨[], .exited⟩, m, some m⟩
    | .checker => ⟨Checker.seenOnFiles m.files symbol requests, m, some m⟩
    | .system path arguments =>
      let bindings := env.map fun (name, value) => (name, Shell.charsOf value)
      let outcome (limit : Option Nat) : Shell.Outcome :=
        Shell.runProgram m.files bindings limit path (arguments ++ [Shell.charsOf symbol])
          (inputOf requests)
      let whole := outcome none
      let left := { m with files := whole.files }
      let ended := if whole.finished then some left else none
      match inTime patience whole.ends 0 whole.sent with
      | (bytes, none) => ⟨.ofBytes bytes .exited, left, ended⟩
      | (bytes, some limit) =>
        ⟨.ofBytes bytes .stalled, { m with files := (outcome (some limit)).files }, ended⟩

/-- The number of scripts that can be run by one another. -/
def nestingLimit : Nat := 5

/-- Starts the program that a path leads to. -/
def start (env : Environment) (patience : Nat) (executable : Path) (symbol : String) :
    Spawner Machine :=
  fun requests m => match find m.files nestingLimit executable with
    | .error reason => .refused reason m
    | .ok program => .running (program.run env patience symbol requests m)

end Program

namespace Probe

/-- Asks checkers that are started for it. Where one of them is waited for that never ends, nobody
gets to see the error that stands here. -/
def supervised {σ : Type} (tag : String) (spawn : String → Spawner σ) (executable : Path)
    (timeoutSeconds : Nat) : Probe σ where
  tag
  check symbol paths s :=
    (Supervisor.probe (spawn symbol) executable timeoutSeconds paths s).getD
      (.error (.aborted "the checker does not end"), s)

/-- Asks the program that checks libraries, which lies beside the host. -/
def bundled (tag : String) (patience : Nat) : Probe Machine :=
  let start (symbol : String) : Spawner Machine := fun requests m =>
    .running (Program.checker.run [] patience symbol requests m)
  supervised tag start ⟨""⟩ (patience / 1000)

/-- Asks a program that is started for it, with some variables. A line has to come within
`patience` milliseconds. -/
def program (h : Helper) (env : Environment) (patience : Nat) : Probe Machine :=
  supervised h.tag (Program.start env patience h.executable) h.executable (patience / 1000)

end Probe

end AudioHost
