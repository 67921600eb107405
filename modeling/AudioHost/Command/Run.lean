import AudioHost.Command.Tasks
import AudioHost.Settings.Load

/-!
The programs: the tool for the command line, the host itself, and the one that checks libraries.
-/

namespace AudioHost.Command

/-! ## The tool -/

/-- The name and version of the tool. -/
def versionText : String := "annot 0.1.0"

/-- How the tool is used. -/
def usageText : String :=
  "Usage: annot [-c DIR] [-e ENV] [-f table|json] scan|list|info|probe|paths ..."

/-- The variable that gives the place of use. -/
def placeVariable : String := "ANNOT_ENV"

/-- The place of use where nothing gives one. -/
def usualPlace : String := "development"

/-- The place of use that the environment gives. -/
def placeIn (env : Environment) : String := (env.lookup placeVariable).getD usualPlace

/-- The report on settings that cannot be loaded. -/
def settingsProblem (e : SettingsError) : Problem := .plain .configuration e.message

/-- Does a task with settings. -/
def perform (w : Surroundings) (s : Settings) (format : Format) : Task → Outcome
  | .scan listFailures => scan w s format listFailures
  | .list kind => list w s format kind
  | .info name rate => info w s format name rate
  | .probe kind libraries => probe w format kind libraries
  | .paths kind => paths w s format kind

/-- Does what is asked for. The settings are loaded for every task. -/
def answer (w : Surroundings) (r : Request) : Outcome :=
  match Settings.loadFrom w.files w.environment r.directory r.place with
  | .error e => Outcome.begun.fail (settingsProblem e)
  | .ok s => perform w s r.format r.task

/-- Runs the tool. -/
def runTool (w : Surroundings) (args : List String) : Outcome :=
  match readArguments (placeIn w.environment) args with
  | .request r => answer w r
  | .help => Outcome.begun.say usageText
  | .version => Outcome.begun.say versionText
  | .wrong => .misuse usageText

/-! ## The host -/

/-- The scan for a kind has failed. -/
def hasFailed (h : Host) (kind : PluginKind) : Bool :=
  match h.state kind with
  | .failed _ => true
  | _ => false

/-- Runs the host: it fails without settings, and if no kind of plugin can be scanned. -/
def runHost (w : Surroundings) : Outcome :=
  let directory := (w.environment.lookup "ANNOT_CONFIG_DIR").getD Settings.usualDirectory
  match Settings.loadFrom w.files w.environment directory (placeIn w.environment) with
  | .error e => Outcome.begun.fail (settingsProblem e)
  | .ok s =>
    let (_, h) := (w.host s).scan
    if PluginKind.all.all (hasFailed h) then
      Outcome.begun.fail (.plain .plugin "No plugin type could be scanned")
    else .begun

/-! ## The checker -/

/-- Runs the program that checks libraries on lines of input. -/
def runChecker (w : Surroundings) (args : List String) (input : String) : Outcome :=
  match args with
  | [] => .misuse "usage: annot-plugin-checker <descriptor-symbol>"
  | symbol :: _ =>
    let requests := (Text.lines input.toList).map String.ofList
    let t := Checker.onFiles w.files symbol requests
    t.lines.foldl Outcome.say .begun

end AudioHost.Command
