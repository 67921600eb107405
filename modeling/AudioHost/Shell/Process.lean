import AudioHost.Shell.Fields
import AudioHost.Shell.Reader
import AudioHost.Shell.Run

/-!
Processes of a script: scripts that are run line by line, and commands that run in a process of
their own, whose output is gathered or which run beside the others.
-/

namespace AudioHost.Shell

/-- How a word is expanded. -/
inductive Mode where
  /-- The word stands for several fields. -/
  | fields
  /-- The word takes the place of a value, which stands for several fields. -/
  | value
  | text
  /-- The word is given to a variable. -/
  | assignment
deriving DecidableEq, Repr

/-- The word can stand for several fields. -/
def Mode.isCut : Mode → Bool
  | .fields => true
  | .value => true
  | _ => false

/-- What runs the commands in a command, and expands the words in a word. -/
structure Runner where
  /-- Runs a command, whose result may be tested. -/
  command : Bool → Command → Run Unit
  expand : Mode → Word → Run (List Item)

namespace Run

/-! ## Variables -/

/-- Sets a variable. -/
def setVariable (name : String) (value : Chars) : Run Unit := do
  let s ← get
  let old := (s.variableNamed? name).getD ⟨none, false, false⟩
  if old.fixed then fail s!"{name}: is read only"
  let v : Variable := ⟨some value, old.exported || s.options.contains 'a', false⟩
  let place := if name = "OPTIND" then 0 else s.optionPlace
  set { s.putVariable name (some v) with optionPlace := place }

/-- Keeps a variable for the end of the current function. -/
def hide (name : String) : Run Unit :=
  modify fun s =>
    match s.hidden with
    | [] => s
    | top :: rest =>
      if (top.lookup name).isSome then s
      else { s with hidden := ((name, s.variableNamed? name) :: top) :: rest }

/-- Runs a step and puts back the variables that it hid. -/
def withHidden (x : Run Unit) : Run Unit := do
  modify fun s => { s with hidden := [] :: s.hidden }
  let r ← attempt x
  modify fun s =>
    let restored := (s.hidden.head?.getD []).foldl (fun t (name, v) => t.putVariable name v) s
    { restored with hidden := s.hidden.drop 1 }
  resume r

/-! ## Scripts -/

/-- Runs the lines of a script, and says whether there was a command in them. -/
def runLines (r : Runner) (tested : Bool) (lineEnds : Nat) : Nat → Bool → Chars → Run Bool
  | 0, ran, _ => pure ran
  | n + 1, ran, rest =>
    if rest.isEmpty then pure ran
    else do
      let scope : Scope := ⟨lineEnds, (← get).aliases⟩
      match readLine? scope rest with
      | none =>
        modify fun s => { s with line := scope.lineOf rest }
        fail "Syntax error"
      | some ([], rest) => runLines r tested lineEnds n ran rest
      | some (cs, rest) =>
        r.command tested (.sequence cs)
        runLines r tested lineEnds n true rest

/-- Runs a script. One without commands succeeds. -/
def runText (r : Runner) (tested : Bool) (script : Chars) : Run Unit := do
  if !(← runLines r tested (script.count '\n') (script.length + 1) false script) then result 0

/-! ## Ends of processes -/

/-- Runs a step and what was to be run at the end of the process. -/
def finish (r : Runner) (x : Run Unit) : Run Unit := do
  match ← attempt x with
  | .error .hang => throw .hang
  | .error (.killed p) => throw (.killed p)
  | .error .vanish => return
  | _ =>
    let s ← get
    match s.traps.lookup "EXIT" with
    | none => return
    | some script =>
      set { s with traps := s.traps.filter fun t => t.1 != "EXIT", speaker := none }
      match ← attempt (runText r true script) with
      | .error .hang => throw .hang
      | .error (.killed p) => throw (.killed p)
      | .error .leave => return
      | _ => result s.status

/-- Runs a step in a process of its own, and waits for it. -/
def child (r : Runner) (x : Run Unit) : Run Unit := fun s =>
  let inner := { s with traps := s.traps.filter fun t => t.2.isEmpty, children := [] }
  let (stop, t) := finish r x inner
  let after := { s with toWorld := t.toWorld, status := t.status }
  match stop with
  | .error .hang => (.error .hang, after)
  | .error (.killed p) => (.error (.killed p), after)
  | _ => (.ok (), after)

/-- The time at which the last process that keeps a stream open ends. -/
def closing (stream : Stream) : Run (Option Nat) := do
  let s ← get
  let holders := s.jobs.filter fun j => j.streams.contains stream
  return holders.foldl (fun last j => do return max (← last) (← j.ends)) (some s.now)

/-- Adds a place where output is gathered. -/
def newGathering : Run Nat := do
  let s ← get
  set { s with gathered := s.gathered ++ [[]] }
  return s.gathered.length

/-- What a step writes in a process of its own, without line ends at its end. -/
def capture (r : Runner) (x : Run Unit) : Run Chars := do
  let old := (← get).status
  let n ← newGathering
  child r do
    setStream 1 (some (.gathered n))
    x
  waitFor (← closing (.gathered n))
  let s ← get
  set { s with inWord := s.status, status := old }
  let text := (s.gathered[n]?.getD []).reverse.flatMap Sent.text
  let text := text.filter fun c => c ≠ Char.ofNat 0
  return (text.reverse.dropWhile (· = '\n')).reverse

/-- Runs steps of which each reads what the one before writes. -/
def pipeline (r : Runner) (start : Nat) : List (Run Unit) → Run (Option Nat)
  | [] => return some start
  | [x] => do
    modify fun s => { s with now := start }
    match ← attempt (child r x) with
    | .ok _ => return some (← get).now
    | .error .hang => return none
    | .error other => throw other
  | x :: xs => do
    modify fun s => { s with now := start }
    let n ← newGathering
    let stop ← attempt <| child r do
      setStream 1 (some (.gathered n))
      x
    let ends ← match stop with
      | .ok _ => pure (some (← get).now)
      | .error .hang => pure none
      | .error other => throw other
    let closes := (← closing (.gathered n)).bind fun last => ends.map (max last)
    let source ← newSource (.ofSent ((← get).gathered[n]?.getD []) closes)
    let old := (← get).streams
    setStream 0 (some source)
    let last ← pipeline r start xs
    modify fun s => { s with streams := old }
    -- One that writes on and on ends when nobody reads it any more.
    let writesOn := 1000 < ((← get).gathered[n]?.getD []).length
    return if ends.isNone && !writesOn then none
      else last.map fun time => max time (ends.getD time)

/-- Runs a step in a process beside this one, which reads nothing. -/
def background (r : Runner) (x : Run Unit) : Run Unit := do
  let s ← get
  let number := State.mainProcess + 1 + s.jobs.length
  let streams := s.streams.map fun x => x.2
  set { s with jobs := ⟨number, none, 0, streams⟩ :: s.jobs }
  let stop ← attempt <| child r do
    modify fun s => { s with number }
    setStream 0 (some .nowhere)
    x
  let t ← get
  let ends := match stop with
    | .error .hang => none
    | _ => some t.now
  let jobs := t.jobs.map fun j =>
    if j.number = number then { j with ends, status := t.status } else j
  set { t with now := s.now, jobs, children := number :: t.children, status := 0 }

end Run

end AudioHost.Shell
