import AudioHost.Discovery.SearchPath
import AudioHost.Settings.Value

/-!
The settings of the host, and how they are read.

Every setting has a default, and settings that are not known are passed over.
-/

namespace AudioHost

/-- The settings for grids. -/
structure GridSettings where
  /-- Frames per column where the producer does not say. -/
  resolution : Nat
  /-- The number of notices that wait for a listener. -/
  capacity : Nat
deriving DecidableEq, Repr

/-- The settings for the log. -/
structure LogSettings where
  level : String
  format : String
deriving DecidableEq, Repr

/-- All settings. -/
structure Settings where
  plugins : PluginSettings
  grids : GridSettings
  log : LogSettings
deriving DecidableEq, Repr

/-- The settings for grids where nothing is set. -/
def GridSettings.usual : GridSettings := ⟨512, 256⟩

/-- The settings for the log where nothing is set. -/
def LogSettings.usual : LogSettings := ⟨"info", "pretty"⟩

/-- The settings where nothing is set. -/
def Settings.usual : Settings := ⟨.usual, .usual, .usual⟩

namespace Setting

/-! ## Taking settings apart -/

/-- The value of an entry: `none` if the entry is there twice. -/
def lookUp? (entries : List (String × Setting)) (name : String) : Option (Option Setting) :=
  match entries.filter fun e => e.1 == name with
  | [] => some none
  | [(_, s)] => some (some s)
  | _ => none

/-- Reads an entry, or takes the default if there is none. -/
def readEntry {α : Type} (entries : List (String × Setting)) (name : String) (usual : α)
    (read : Setting → Option α) : Option α :=
  (lookUp? entries name).bind fun s => match s with
    | none => some usual
    | some s => read s

/-- The entries of a table. A list gives its values to the names in order. -/
def entriesOf? (m : Manner) (names : List String) : Setting → Option (List (String × Setting))
  | .table entries => some entries
  | .list items =>
    if m.longLists || items.length ≤ names.length then some (names.zip items) else none
  | _ => none

/-- Reads every value of a list. -/
def items? {α : Type} (read : Setting → Option α) : Setting → Option (List α)
  | .list items => items.mapM read
  | _ => none

/-- A value that may be missing. -/
def nullable? {α : Type} (read : Setting → Option α) : Setting → Option (Option α)
  | .missing => some none
  | s => (read s).map some

/-! ## Reading settings -/

/-- Reads the entry of a program that checks libraries. Both parts must be there. -/
def helper? (m : Manner) (s : Setting) : Option Helper := do
  let entries ← entriesOf? m ["tag", "executable"] s
  let tag ← (← lookUp? entries "tag")
  let executable ← (← lookUp? entries "executable")
  return ⟨← m.text? tag, ⟨← m.text? executable⟩⟩

/-- The names of the settings for plugins. -/
def pluginNames : List String :=
  ["ladspa_path", "vamp_path", "ladspa_glob", "vamp_glob", "helpers", "helper_timeout_seconds",
    "run_in_process", "reference_sample_rate"]

/-- Reads the settings for plugins. -/
def plugins? (m : Manner) (s : Setting) : Option PluginSettings := do
  let es ← entriesOf? m pluginNames s
  let usual := PluginSettings.usual
  return {
    ladspaPath := ← readEntry es "ladspa_path" none (nullable? (items? m.text?))
    vampPath := ← readEntry es "vamp_path" none (nullable? (items? m.text?))
    ladspaGlob := ← readEntry es "ladspa_glob" usual.ladspaGlob m.text?
    vampGlob := ← readEntry es "vamp_glob" usual.vampGlob m.text?
    helpers := ← readEntry es "helpers" [] (items? (helper? m))
    helperTimeoutSeconds :=
      ← readEntry es "helper_timeout_seconds" usual.helperTimeoutSeconds (m.word? 64)
    runInProcess := ← readEntry es "run_in_process" usual.runInProcess m.flag?
    referenceSampleRate :=
      ← readEntry es "reference_sample_rate" usual.referenceSampleRate m.single? }

/-- Reads the settings for grids. -/
def grids? (m : Manner) (s : Setting) : Option GridSettings := do
  let es ← entriesOf? m ["default_resolution", "event_capacity"] s
  return {
    resolution := ← readEntry es "default_resolution" GridSettings.usual.resolution (m.word? 32)
    capacity := ← readEntry es "event_capacity" GridSettings.usual.capacity (m.word? 64) }

/-- Reads the settings for the log. -/
def log? (m : Manner) (s : Setting) : Option LogSettings := do
  let es ← entriesOf? m ["level", "format"] s
  return {
    level := ← readEntry es "level" LogSettings.usual.level m.text?
    format := ← readEntry es "format" LogSettings.usual.format m.text? }

/-- Reads all settings. -/
def settings? (m : Manner) (s : Setting) : Option Settings := do
  let es ← entriesOf? m ["plugins", "cache", "logging"] s
  return {
    plugins := ← readEntry es "plugins" .usual (plugins? m)
    grids := ← readEntry es "cache" .usual (grids? m)
    log := ← readEntry es "logging" .usual (log? m) }

end Setting

end AudioHost
