import AudioHost.Plugin.Error

/-!
What a program writes, and how it ends.
-/

namespace AudioHost.Command

/-- What a program writes, and the code that it ends with. -/
structure Outcome where
  code : Nat
  out : String
  err : String
deriving DecidableEq, Repr

namespace Outcome

/-- Nothing is written yet, and all is well. -/
def begun : Outcome := ⟨0, "", ""⟩

/-- The code of a task that failed. -/
def failed : Nat := 1

/-- The code of a command line that asks for nothing known. -/
def misused : Nat := 2

/-- The program only tells how it is used. -/
def misuse (usage : String) : Outcome := ⟨misused, "", usage ++ "\n"⟩

/-- Adds a line to what is written. -/
def say (o : Outcome) (line : String) : Outcome := { o with out := o.out ++ line ++ "\n" }

/-- Adds a warning. -/
def warn (o : Outcome) (message : String) : Outcome := { o with err := o.err ++ s!"⚠ {message}\n" }

/-- Adds a warning, if there is one. -/
def warnIf (o : Outcome) (message : Option String) : Outcome :=
  match message with
  | some m => o.warn m
  | none => o

/-- Ends with an error. -/
def fail (o : Outcome) (p : Problem) : Outcome :=
  { o with code := failed, err := o.err ++ s!"✗ {p.text}\n" }

end Outcome

end AudioHost.Command
