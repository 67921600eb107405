import AudioHost.Settings.Basic
import AudioHost.Settings.Layer
import AudioHost.Settings.Source

/-!
Loading the settings: from a file with defaults, a file for the place of use, and the environment,
each on top of the ones before.
-/

namespace AudioHost

/-- Why settings cannot be loaded. -/
inductive SettingsError where
  /-- A file is malformed. -/
  | malformed
  /-- A value does not fit its setting. -/
  | unfit
deriving DecidableEq, Repr

/-- What an error says. -/
def SettingsError.message : SettingsError → String
  | .malformed => "Failed to build config"
  | .unfit => "Failed to deserialize config"

namespace Settings

/-! ## The environment -/

/-- What the names of variables for settings begin with. -/
def variableStart : String := "annot__"

/-- The name of the setting that a variable is for: parts are apart by two underscores. -/
def settingName? (variableName : String) : Option String :=
  (Text.afterPrefix? variableStart.toList (Setting.lowered variableName).toList).map fun cs =>
    String.ofList (pointed cs)
where
  pointed : List Char → List Char
    | '_' :: '_' :: cs => '.' :: pointed cs
    | c :: cs => c :: pointed cs
    | [] => []

/-- The value that the text of a variable stands for. -/
def valueOf (text : String) : Setting :=
  if Setting.lowered text = "true" then .flag true
  else if Setting.lowered text = "false" then .flag false
  else match Setting.wordOf? text, Setting.realOf? text with
    | some n, _ => .integer n
    | none, some x => .real x
    | none, none => .text text

/-- The entries in the environment. -/
def environmentSource (env : Environment) : List (String × Setting) :=
  env.filterMap fun (name, text) => (settingName? name).map fun n => (n, valueOf text)

/-! ## Loading -/

/-- Loads the settings from a directory for a place of use. -/
def loadFrom (files : FileTree) (env : Environment) (directory place : String) :
    Except SettingsError Settings := do
  let source (name : String) : Except SettingsError (List (String × Setting)) :=
    (SettingsFile.entries? files ⟨directory ++ "/" ++ name⟩).elim (.error .malformed) .ok
  let defaults ← source "default"
  let special ← source place
  let sources := [defaults, special, environmentSource env]
  match Setting.settings? .lenient (sources.foldl Setting.addSource (.table [])) with
  | some s => return s
  | none => throw .unfit

/-- The directory that settings are usually in. -/
def usualDirectory : String := "config"

end Settings

end AudioHost
