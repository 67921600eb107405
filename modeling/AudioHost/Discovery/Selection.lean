import AudioHost.Discovery.Program
import AudioHost.Discovery.Scanner

/-!
Which checkers the settings ask for.
-/

namespace AudioHost.Scanner

/-- The tag of the checker that needs no settings. -/
def nativeTag : String := "native"

/-- The checkers for settings: this process itself, or the programs that are set, or else the one
that lies beside the host, if it is there. -/
def probesOf (s : PluginSettings) (env : Environment) (bundled : Bool) : List (Probe Machine) :=
  let patience := 1000 * s.helperTimeoutSeconds
  if s.runInProcess then [.inProcess nativeTag]
  else if !s.helpers.isEmpty then s.helpers.map fun h => .program h env patience
  else if bundled then [.bundled nativeTag patience]
  else []

/-- A scanner with checkers. Of those with the same tag only the first one counts. -/
def ofProbes (s : PluginSettings) (env : Environment) (probes : List (Probe Machine)) : Scanner :=
  ⟨s, env, distinct probes⟩

/-- The scanner for settings. -/
def ofSettings (s : PluginSettings) (env : Environment) (bundled : Bool) : Scanner :=
  ofProbes s env (probesOf s env bundled)

end AudioHost.Scanner
