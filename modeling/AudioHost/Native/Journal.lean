import AudioHost.Files.Path
import AudioHost.Number.Binary

/-!
The journal of what happened in native code, in order.
-/

namespace AudioHost

/-- A call into a plugin. -/
inductive NativeCall where
  | instantiateEffect (rate : UInt64)
  | instantiateAnalyser (rate : Single)
  | connectPort (port : Nat)
  | activate
  | run (count : Nat)
  | deactivate
  | cleanup
  | initialise (channels step block : Nat)
  | reset
  | getParameter (index : Int)
  | setParameter (index : Int)
  /-- Asks for one of the numbers that an analyser tells, by a function of a name. -/
  | askCount (function : String)
deriving DecidableEq, Repr

/-- Something that happened. Opened libraries are told apart by number, as instances are. -/
inductive Event where
  /-- A specimen is a library that was put in place of a file. -/
  | opened (library : Nat) (path : Path) (specimen : Bool)
  | openFailed (path : Path)
  /-- Closed on purpose, whether or not it closed well. -/
  | closed (library : Nat) (path : Path)
  /-- Forgotten by its last user without being closed. -/
  | dropped (library : Nat) (path : Path)
  /-- Meant to be closed, but left open because it has other users. -/
  | deferred (library : Nat) (path : Path)
  /-- A call into a plugin of a library; a plugin that is not listed has no name. -/
  | called (library : Nat) (plugin : Option String) (call : NativeCall)
  /-- An instance has let go of all that it had, and whoever made it is told. -/
  | released (number : Nat)
deriving DecidableEq, Repr

/-- Everything that happened so far. -/
abbrev Journal := List Event

/-- A 32-bit number as eight hexadecimal digits; a NaN as a word. -/
def Single.hexText (x : Single) : String :=
  let digits := Nat.toDigits 16 x.bits.toNat
  if x.isNaN then "nan"
  else String.ofList (List.replicate (8 - digits.length) '0' ++ digits)

/-- The line on a call, if it is listed. -/
def NativeCall.line? : NativeCall → Option String
  | .instantiateEffect rate => some s!"instantiate {rate.toNat}"
  | .instantiateAnalyser rate => some s!"instantiate {rate.hexText}"
  | .connectPort port => some s!"connect_port {port}"
  | .activate => some "activate"
  | .run count => some s!"run {count}"
  | .deactivate => some "deactivate"
  | .cleanup => some "cleanup"
  | .initialise channels step block => some s!"initialise {channels} {step} {block}"
  | .reset => some "reset"
  | .getParameter index => some s!"get_parameter {index}"
  | .setParameter index => some s!"set_parameter {index}"
  | .askCount _ => none

/-- The line on an event, if it is listed. -/
def Event.line? : Event → Option String
  | .opened _ path _ => some s!"open {path.text}"
  | .openFailed path => some s!"open-failed {path.text}"
  | .closed _ path => some s!"close {path.text}"
  | .dropped _ path => some s!"drop {path.text}"
  | .deferred _ _ => none
  | .called _ (some plugin) call => call.line?.map fun line => s!"{plugin}.{line}"
  | .called _ none _ => none
  | .released _ => none

/-- The lines of a journal. -/
def Journal.lines (j : Journal) : List String := j.filterMap Event.line?

end AudioHost
