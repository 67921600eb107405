import AudioHost.Command.Listing
import AudioHost.Command.Outcome
import AudioHost.Host.Basic
import AudioHost.Plugin.Schema
import AudioHost.Settings.Basic

/-!
The tasks of the command line.
-/

namespace AudioHost.Command

/-- Where a program runs. -/
structure Surroundings where
  files : FileTree
  environment : Environment
  /-- The program that checks libraries lies beside this one. -/
  hasChecker : Bool

namespace Surroundings

/-- The machine before anything has run. -/
def machine (w : Surroundings) : Machine := .start w.files (.start [] .file)

/-- A host with settings. -/
def host (w : Surroundings) (s : Settings) : Host :=
  .start (.ofSettings s.plugins w.environment w.hasChecker) none w.machine

end Surroundings

/-- The kinds that are chosen. -/
def chosen : Option PluginKind → List PluginKind
  | some kind => [kind]
  | none => PluginKind.all

/-! ## Scanning -/

/-- The state of a scan in words. -/
def stateText : ScanState → String
  | .unscanned => "unscanned"
  | .scanning => "scanning"
  | .scanned _ => "scanned"
  | .failed reason => s!"failed: {reason}"

/-- What a scan found of each kind. -/
def summary (h : Host) (r : ScanReport) : Listing where
  columns := [("plugin_type", "type"), ("state", "state"), ("plugins", "plugins"),
    ("rejected", "rejected")]
  rows := PluginKind.all.map fun kind =>
    [.text kind.tag, .text (stateText (h.state kind)), .count (r.foundFor kind),
      .count (r.failures.countP fun f => f.kind = kind)]

/-- Why a library was left out. -/
def reasonText (f : ScanFailure) : String :=
  if f.message.isEmpty then f.status.words else s!"{f.status.words}: {f.message}"

/-- The libraries that a scan left out. -/
def failures (r : ScanReport) : Listing where
  columns := [("plugin_type", "type"), ("library", "library"), ("reason", "reason"),
    ("checker", "checker")]
  rows := r.failures.map fun f =>
    [.text f.kind.tag, .text f.path.text, .text (reasonText f), .text f.tag]

/-- A library that a scan left out, as JSON. -/
def failureJson (f : ScanFailure) : Json :=
  .object [("plugin_type", .string f.kind.tag), ("path", .string f.path.text),
    ("tag", .string f.tag), ("status", .string f.status.name), ("message", .string f.message)]

/-- A report as JSON, without the times. -/
def reportJson (r : ScanReport) : Json :=
  .object [("succeeded", .bool r.succeeded),
    ("found", .array (r.found.map fun e => .array [.string e.1.tag, .natural e.2])),
    ("failures", .array (r.failures.map failureJson))]

/-- Scans and tells what was found. -/
def scan (w : Surroundings) (s : Settings) (format : Format) (listFailures : Bool) : Outcome :=
  let (r, h) := (w.host s).scan
  let o := Outcome.begun
  match format with
  | .json => o.say ((reportJson r).pretty "")
  | .table =>
    let o := o.say ((summary h r).text .table)
    if !listFailures then o.warnIf r.failureText?
    else if r.failures.isEmpty then o
    else o.say ((failures r).text .table)

/-- A host after a scan, and what is told of that. -/
def scanned (w : Surroundings) (s : Settings) : Host × Outcome :=
  let (r, h) := (w.host s).scan
  (h, Outcome.begun.warnIf r.failureText?)

/-! ## Plugins -/

/-- The plugins of some kinds. -/
def plugins (h : Host) (kinds : List PluginKind) : Listing where
  columns := ["identifier", "name", "maker", "category", "parameters"].map fun c => (c, c)
  rows := (kinds.flatMap h.descriptors).map fun r =>
    [.text r.identifier.text, .text r.name, .text r.maker, .text r.category,
      .count r.parameterCount]

/-- Lists the plugins that are found. -/
def list (w : Surroundings) (s : Settings) (format : Format) (kind : Option PluginKind) :
    Outcome :=
  let (h, o) := scanned w s
  o.say ((plugins h (chosen kind)).text format)

/-- A line on a property, its name filled up with spaces. -/
def propertyLine (name value : String) : String :=
  let label := name ++ ":"
  "  " ++ label ++ String.ofList (List.replicate (24 - label.length) ' ') ++ " " ++ value

/-- The properties of a plugin. -/
def properties (r : Record) : List (String × String) :=
  [("Name", r.name), ("Maker", r.maker), ("Copyright", r.copyright),
    ("Unique ID", r.uniqueId.shown), ("Category", r.category)] ++
  (if r.description.isEmpty then [] else [("Description", r.description)]) ++
  (r.version.map fun v => ("Version", toString v)).toList ++
  [("Audio inputs", toString r.audioInputs), ("Audio outputs", toString r.audioOutputs),
    ("Control outputs", ", ".intercalate r.controlOutputs)]

/-- The ports of a plugin at a sample rate. -/
def ports (r : Record) (rate : Single) : Listing where
  columns := ["index", "name", "direction", "kind", "minimum", "maximum", "default", "step"].map
    fun c => (c, c)
  rows := r.ports.map fun p =>
    let number (x : Single) := Cell.text (NumberStyle.plain.single x)
    [.count p.index, .text p.name, .text (Schema.wordFor Schema.directions p.direction),
      .text (Schema.wordFor Schema.signals p.signal), number (p.minimum rate),
      number (p.maximum rate), number (p.default rate), number (p.step rate)]

/-- Tells of a plugin. -/
def describe (o : Outcome) (r : Record) (rate : Single) : Format → Outcome
  | .json => o.say ((Schema.record r).pretty "")
  | .table =>
    let o := o.say r.identifier.text
    let o := (properties r).foldl (fun o (name, value) => o.say (propertyLine name value)) o
    (o.say "").say ((ports r rate).text .table)

/-- Looks a plugin up, by its name or by the plain form of that. -/
def findPlugin? (h : Host) (id : Identifier) : Option Record :=
  (h.descriptor? id).orElse fun _ => h.descriptor? id.canonical

/-- Tells of the plugin of a name. -/
def info (w : Surroundings) (s : Settings) (format : Format) (name : String)
    (rate : Option Single) : Outcome :=
  match Identifier.ofText name with
  | .error e => Outcome.begun.fail (.ofPlugin (.invalidIdentifier e))
  | .ok id =>
    let (h, o) := scanned w s
    match findPlugin? h id with
    | some r => describe o r (rate.getD s.plugins.referenceSampleRate) format
    | none => o.fail (.plain .notFound s!"No plugin '{id.text}' was found")

/-! ## Libraries and directories -/

/-- The verdicts on libraries. -/
def verdicts (vs : List Verdict) : Listing where
  columns := ["library", "status", "message"].map fun c => (c, c)
  rows := vs.map fun v => [.text v.path.text, .text v.status.words, .text v.message]

/-- Checks libraries in this process. -/
def probe (w : Surroundings) (format : Format) (kind : PluginKind) (libraries : List Path) :
    Outcome :=
  let (vs, _) := Check.libraries kind.symbol libraries w.machine
  Outcome.begun.say ((verdicts vs).text format)

/-- The directories that are searched for some kinds. -/
def directories (w : Surroundings) (s : Settings) (kinds : List PluginKind) : Listing where
  columns := [("plugin_type", "type"), ("directory", "directory"), ("glob", "glob"),
    ("exists", "exists")]
  rows := kinds.flatMap fun kind =>
    (SearchPath.directories s.plugins w.environment kind).map fun d =>
      [.text kind.tag, .text d.text, .text (s.plugins.globFor kind),
        .flag (w.files.isDirectory d)]

/-- Tells which directories are searched. -/
def paths (w : Surroundings) (s : Settings) (format : Format) (kind : Option PluginKind) :
    Outcome :=
  Outcome.begun.say ((directories w s (chosen kind)).text format)

end AudioHost.Command
