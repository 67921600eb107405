import AudioHost.Command.Argument
import AudioHost.Number.Decimal
import AudioHost.Plugin.Identifier

/-!
What a command line asks for.
-/

namespace AudioHost.Command

/-- How results are shown. -/
inductive Format where
  | table
  | json
deriving DecidableEq, Repr

/-- What is to be done. -/
inductive Task where
  | scan (failures : Bool)
  | list (kind : Option PluginKind)
  | info (identifier : String) (sampleRate : Option Single)
  | probe (kind : PluginKind) (libraries : List Path)
  | paths (kind : Option PluginKind)
deriving DecidableEq, Repr

/-- A task and how to go about it. -/
structure Request where
  /-- The directory of the settings. -/
  directory : String
  /-- The place of use that settings are for. -/
  place : String
  format : Format
  task : Task
deriving DecidableEq, Repr

/-- What a command line comes to. -/
inductive Reading where
  | request (r : Request)
  | help
  | version
  | wrong
deriving DecidableEq, Repr

/-! ## Switches -/

/-- The switch that asks for help. -/
def helpSwitch : Switch := ⟨"help", some 'h', false⟩

/-- The switches in front of the task. -/
def frontSwitches : List Switch :=
  [⟨"config-dir", some 'c', true⟩, ⟨"env", some 'e', true⟩, ⟨"format", some 'f', true⟩, helpSwitch,
    ⟨"version", some 'V', false⟩]

/-- The switch that names a kind. -/
def kindSwitch : Switch := ⟨"type", some 't', true⟩

/-- The switches of each task. -/
def taskSwitches : List (String × List Switch) :=
  [("scan", [⟨"failures", none, false⟩, helpSwitch]),
    ("list", [kindSwitch, helpSwitch]),
    ("info", [⟨"sample-rate", none, true⟩, helpSwitch]),
    ("probe", [kindSwitch, helpSwitch]),
    ("paths", [kindSwitch, helpSwitch])]

/-! ## Gathering values -/

/-- The values of switches and the words that were read so far. -/
structure Given where
  values : List (String × String)
  words : List String
deriving DecidableEq, Repr

namespace Given

/-- Nothing is given. -/
def nothing : Given := ⟨[], []⟩

/-- The value of a switch. -/
def value? (g : Given) (name : String) : Option String := g.values.lookup name

/-- The switch is given. -/
def has (g : Given) (name : String) : Bool := (g.value? name).isSome

/-- Adds a value, unless the switch was given before. -/
def add (g : Given) (name value : String) : Option Given :=
  if g.has name then none else some { g with values := (name, value) :: g.values }

end Given

/-- The formats by their names. -/
def formats : List (String × Format) := [("table", .table), ("json", .json)]

/-- The kind of a name. -/
def kindOf? (name : String) : Option PluginKind := PluginKind.all.find? fun k => k.tag == name

/-- The sample rate that a text gives. -/
def rateOf? (s : String) : Option Single := (Decimal.numeral? s).map (·.toSingle)

/-- The value is one that the switch may have. -/
def isFit (name value : String) : Bool :=
  match name with
  | "format" => (formats.lookup value).isSome
  | "type" => (kindOf? value).isSome
  | "sample-rate" => (rateOf? value).isSome
  | _ => true

/-- Gathers arguments, and hands what was given to `next`. The first argument that decides the
reading does so. -/
def gather (mayBeWord : Nat → String → Bool) (g : Given) (next : Given → Reading) :
    List Argument → Reading
  | [] => next g
  | .wrong :: _ => .wrong
  | .flag "help" :: _ => .help
  | .flag "version" :: _ => .version
  | .flag name :: rest =>
    match g.add name "" with
    | some g => gather mayBeWord g next rest
    | none => .wrong
  | .valued name value :: rest =>
    match g.add name value with
    | some g => if isFit name value then gather mayBeWord g next rest else .wrong
    | none => .wrong
  | .word s :: rest =>
    if mayBeWord g.words.length s then
      gather mayBeWord { g with words := g.words ++ [s] } next rest
    else .wrong

/-! ## Reading requests -/

/-- The word may stand at a place after the name of a task. -/
def mayBeWord (task : String) (place : Nat) (s : String) : Bool :=
  match task with
  | "info" => place == 0
  | "probe" => !s.isEmpty
  | _ => false

/-- The task of a name, if what it needs is given. -/
def taskOf? (name : String) (g : Given) : Option Task :=
  let kind := (g.value? "type").bind kindOf?
  match name with
  | "scan" => some (.scan (g.has "failures"))
  | "list" => some (.list kind)
  | "paths" => some (.paths kind)
  | "info" => g.words.head?.map fun id => .info id ((g.value? "sample-rate").bind rateOf?)
  | "probe" =>
    if g.words.isEmpty then none else kind.map fun k => .probe k (g.words.map Path.mk)
  | _ => none

/-- The request for a task with what stands in front of it. `place` is the place of use where no
switch gives one. -/
def requestOf (place : String) (front : Given) (task : Task) : Request where
  directory := (front.value? "config-dir").getD "config"
  place := (front.value? "env").getD place
  format := ((front.value? "format").bind fun name => formats.lookup name).getD .table
  task

/-- The words may follow the word that asks for help: the name of a task, or none. -/
def mayExplain (words : List String) : Bool :=
  match words with
  | [] => true
  | [name] => name == "help" || (taskSwitches.lookup name).isSome
  | _ => false

/-- Reads the name of a task and what follows. -/
def readTask (place : String) (front : Given) (name : String) (args : List String) : Reading :=
  match taskSwitches.lookup name with
  | none => if name = "help" && mayExplain args then .help else .wrong
  | some switches =>
    gather (mayBeWord name) .nothing
      (fun g => match taskOf? name g with
        | some task => .request (requestOf place front task)
        | none => .wrong)
      (Argument.read switches none args)

/-- Reads a command line. -/
def readArguments (place : String) (args : List String) : Reading :=
  let (front, word) := Argument.readFront frontSwitches none args
  gather (fun _ _ => false) .nothing
    (fun g => match word with
      | some (name, rest) => readTask place g name rest
      | none => .wrong)
    front

end AudioHost.Command
