import AudioHost.Shell.Number

/-!
The events that a script can be told of: its end, and signals from other processes.
-/

namespace AudioHost.Shell.Signal

/-- The names of the events, the end of the script first, each at the place of its number. -/
def names : List String :=
  ["EXIT", "HUP", "INT", "QUIT", "ILL", "TRAP", "ABRT", "BUS", "FPE", "KILL", "USR1", "SEGV",
    "USR2", "PIPE", "ALRM", "TERM", "STKFLT", "CHLD", "CONT", "STOP", "TSTP", "TTIN", "TTOU",
    "URG", "XCPU", "XFSZ", "VTALRM", "PROF", "WINCH", "POLL", "PWR", "SYS"]

/-- The number of an event, by its number or its name in any case. -/
def number? (cs : Chars) : Option Nat :=
  match Number.ofDigits? cs with
  | some n => if n < 65 then some n else none
  | none =>
    let name := String.ofList (cs.map Char.toUpper)
    let n := names.idxOf name
    if n < names.length then some n else none

/-- The name of an event. -/
def name (n : Nat) : String := names.getD n (toString n)

/-- Signals that end no process. -/
def harmless : List Nat := [0, 17, 18, 23, 28]

end AudioHost.Shell.Signal
