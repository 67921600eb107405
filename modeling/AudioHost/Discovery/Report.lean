import AudioHost.Discovery.Verdict
import AudioHost.Plugin.Identifier

/-!
What a scan for plugins found and what it left out.
-/

namespace AudioHost

/-- A library that a scan left out. -/
structure ScanFailure where
  kind : PluginKind
  path : Path
  /-- The checker that refused it. -/
  tag : String
  status : Status
  message : String
deriving DecidableEq, Repr

/-- What a scan of every kind of plugin came to. -/
structure ScanReport where
  /-- At least one checker could run. -/
  succeeded : Bool
  /-- The number of plugins found of each kind that was scanned. -/
  found : List (PluginKind × Nat)
  failures : List ScanFailure
  finished : Bool
deriving DecidableEq, Repr

namespace ScanReport

/-- The report of a scan that has just begun. -/
def begun : ScanReport := ⟨false, [], [], false⟩

/-- The number of plugins found of a kind. -/
def foundFor (r : ScanReport) (kind : PluginKind) : Nat :=
  (r.found.filter fun e => e.1 = kind).foldr (fun e total => e.2 + total) 0

/-- What the user is told when no checker could run. -/
def noChecker : String :=
  "Failed to scan for plugins: no plugin checker could be run. " ++
    "Possibly the checker was not installed alongside the host, or none is configured."

/-- The line on one library that was left out. -/
def failureLine (f : ScanFailure) : String :=
  let message := if f.message.isEmpty then "" else s!" - {f.message}"
  let tag := if f.tag.isEmpty then "" else s!" [{f.tag}]"
  s!"  {f.path.text} ({f.kind.tag}): {f.status.words}{message}{tag}\n"

/-- What the user is told of the failures; nothing if all went well. -/
def failureText? (r : ScanReport) : Option String :=
  if !r.succeeded then some noChecker
  else if r.failures.isEmpty then none
  else some ("Failed to load one or more plugin libraries:\n" ++
    String.join (r.failures.map failureLine) ++
    "These libraries may be incompatible with the system and will be ignored.")

end ScanReport

end AudioHost
