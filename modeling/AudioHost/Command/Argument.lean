import AudioHost.Text.Split

/-!
Arguments of a command line.

An argument is a switch with a long name or a letter, the value of a switch, or a word. After two
dashes that stand alone everything is a word.
-/

namespace AudioHost.Command

/-- A switch that a command knows. -/
structure Switch where
  name : String
  letter : Option Char
  takesValue : Bool
deriving DecidableEq, Repr

/-- What arguments stand for. -/
inductive Argument where
  | flag (name : String)
  | valued (name value : String)
  | word (s : String)
  /-- An argument that no switch of the command explains. -/
  | wrong
deriving DecidableEq, Repr

namespace Argument

/-- The argument begins with a dash and is more than that. -/
def isDashed (s : String) : Bool :=
  match s.toList with
  | '-' :: _ :: _ => true
  | _ => false

/-- The switch of a long name. -/
def named? (switches : List Switch) (name : List Char) : Option Switch :=
  switches.find? fun s => s.name == String.ofList name

/-- The switch of a letter. -/
def lettered? (switches : List Switch) (c : Char) : Option Switch :=
  switches.find? fun s => s.letter == some c

/-- What a switch found so far needs. -/
inductive Step where
  | done (a : Argument)
  /-- The next argument is the value. -/
  | waits (name : String)
deriving DecidableEq, Repr

/-- Reads a switch that is given by its long name, maybe with a value after a sign of equality. -/
def long (switches : List Switch) (cs : List Char) : Step :=
  let (name, value) := match Text.splitFirst? '=' cs with
    | some (name, value) => (name, some (String.ofList value))
    | none => (cs, none)
  match named? switches name, value with
  | none, _ => .done .wrong
  | some s, some value => .done (if s.takesValue then .valued s.name value else .wrong)
  | some s, none => if s.takesValue then .waits s.name else .done (.flag s.name)

/-- Removes a sign of equality in front. -/
def dropEquals : List Char → List Char
  | '=' :: cs => cs
  | cs => cs

/-- Reads switches that are given by their letters. The rest after one that takes a value is the
value. -/
def letters (switches : List Switch) : List Char → List Step
  | [] => []
  | c :: cs => match lettered? switches c with
    | none => [.done .wrong]
    | some s =>
      if !s.takesValue then .done (.flag s.name) :: letters switches cs
      else if cs.isEmpty then [.waits s.name]
      else [.done (.valued s.name (String.ofList (dropEquals cs)))]

/-- The arguments of steps of which none waits. -/
def settled (steps : List Step) : List Argument :=
  steps.filterMap fun s => match s with
    | .done a => some a
    | .waits _ => none

/-- The switch that waits at the end of steps. -/
def waiting? (steps : List Step) : Option String :=
  match steps.getLast? with
  | some (.waits name) => some name
  | _ => none

/-- The steps of an argument that begins with a dash. -/
def stepsOf (switches : List Switch) (s : String) : List Step :=
  match s.toList with
  | '-' :: '-' :: cs => [long switches cs]
  | cs => letters switches (cs.drop 1)

/-- Reads arguments. `waits` is a switch that needs a value. -/
def read (switches : List Switch) (waits : Option String) : List String → List Argument
  | [] => if waits.isSome then [.wrong] else []
  | s :: rest =>
    match waits with
    | some name =>
      if isDashed s then [.wrong] else .valued name s :: read switches none rest
    | none =>
      if s = "--" then rest.map .word
      else if isDashed s then
        let steps := stepsOf switches s
        settled steps ++ read switches (waiting? steps) rest
      else .word s :: read switches none rest

/-- Reads arguments up to the first word, and gives the word and the rest. -/
def readFront (switches : List Switch) (waits : Option String) :
    List String → List Argument × Option (String × List String)
  | [] => (if waits.isSome then [.wrong] else [], none)
  | s :: rest =>
    match waits with
    | some name =>
      if isDashed s then ([.wrong], none)
      else
        let (front, found) := readFront switches none rest
        (.valued name s :: front, found)
    | none =>
      if s = "--" then (rest.map fun _ => .wrong, none)
      else if isDashed s then
        let steps := stepsOf switches s
        let (front, found) := readFront switches (waiting? steps) rest
        (settled steps ++ front, found)
      else ([], some (s, rest))

end Argument

end AudioHost.Command
