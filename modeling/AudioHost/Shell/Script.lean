import AudioHost.Shell.Control

/-!
Programs that are started from outside, and what is seen of them.
-/

namespace AudioHost.Shell

/-! ## The runner -/

mutual

/-- Runs a command, within so many others. -/
def execute : Nat → Bool → Command → Run Unit
  | 0, _, _ => throw .hang
  | n + 1, tested, c => Run.command ⟨execute n, expand n⟩ tested c

/-- Expands a word, within so many others. -/
def expand : Nat → Mode → Word → Run (List Item)
  | 0, _, _ => throw .hang
  | n + 1, mode, w => expandWord ⟨execute n, expand n⟩ mode w

end

/-- How deep commands and words can run within one another. -/
def depthLimit : Nat := 6000

/-- What runs the commands of a script. -/
def runner : Runner := ⟨execute depthLimit, expand depthLimit⟩

/-! ## Programs -/

/-- What is seen of a program. -/
structure Outcome where
  files : FileTree
  /-- What it wrote, and when. -/
  sent : List (Nat × Chars)
  /-- The time at which its output ends, if it does. -/
  ends : Option Nat
  /-- The program itself ends. -/
  finished : Bool

/-- A process before its program begins. -/
def newState (files : FileTree) (bindings : List (String × Chars)) (limit : Option Nat)
    (input : Chars) : State where
  files
  now := 0
  limit
  sent := []
  sources := [.ofChars 0 input]
  gathered := []
  jobs := []
  number := State.mainProcess
  directory := ⟨""⟩
  lastDirectory := ⟨""⟩
  mask := 18
  streams := [(0, .source 0), (1, .outward), (2, .nowhere)]
  bindings := Run.ownVariables <|
    bindings.map fun (name, value) => (name, ⟨some value, true, false⟩)
  hidden := []
  functions := []
  aliases := []
  zero := []
  parameters := []
  status := 0
  inWord := 0
  traps := []
  options := []
  children := []
  loops := 0
  calls := 0
  line := 1
  speaker := none
  optionPlace := 0

/-- Runs a program, by its name and with arguments, on an input. Everything stops at `limit`. -/
def runProgram (files : FileTree) (bindings : List (String × Chars)) (limit : Option Nat)
    (name : Chars) (args : List Chars) (input : Chars) : Outcome :=
  let (stop, s) := Run.finish runner (Run.become runner name args)
    (newState files bindings limit input)
  let finished := match stop with
    | .error .hang => false
    | _ => true
  let ends := match Run.closing .outward s with
    | (.ok time, _) => if finished then time else none
    | _ => none
  ⟨s.files, s.sent.reverse.map fun x => (x.time, x.text), ends, finished⟩

end AudioHost.Shell
