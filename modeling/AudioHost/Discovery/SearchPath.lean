import AudioHost.Plugin.Identifier
import AudioHost.Number.Binary

/-!
Where plugins of a kind are searched for.

Directories that are set come first, then those of a variable, then the usual ones.
-/

namespace AudioHost

/-- A program that checks libraries, under the tag it is known by. -/
structure Helper where
  tag : String
  executable : Path
deriving DecidableEq, Repr

/-- The settings for plugins. -/
structure PluginSettings where
  ladspaPath : Option (List String)
  vampPath : Option (List String)
  ladspaGlob : String
  vampGlob : String
  helpers : List Helper
  helperTimeoutSeconds : Nat
  runInProcess : Bool
  referenceSampleRate : Single
deriving DecidableEq, Repr

namespace PluginSettings

/-- The settings where nothing is set. -/
def usual : PluginSettings := ⟨none, none, "*.so", "*.so", [], 15, false, ⟨0x473B8000⟩⟩

/-- The directories that are set for a kind. -/
def pathFor (s : PluginSettings) : PluginKind → Option (List String)
  | .ladspa => s.ladspaPath
  | .vamp => s.vampPath

/-- The file name pattern for a kind. -/
def globFor (s : PluginSettings) : PluginKind → String
  | .ladspa => s.ladspaGlob
  | .vamp => s.vampGlob

end PluginSettings

/-- Variables of the environment. -/
abbrev Environment := List (String × String)

namespace SearchPath

/-- The variable that names directories for a kind. -/
def variableName : PluginKind → String
  | .ladspa => "LADSPA_PATH"
  | .vamp => "VAMP_PATH"

/-- The home directory. -/
def home? (env : Environment) : Option String :=
  (env.lookup "HOME").orElse fun _ => env.lookup "USERPROFILE"

/-- The directories for a kind that lie in the home directory. -/
def underHome : PluginKind → List String
  | .ladspa => [".ladspa"]
  | .vamp => ["vamp", ".vamp"]

/-- The usual directories for a kind, joined as in a variable. -/
def usual (env : Environment) (kind : PluginKind) : String :=
  let own := match home? env with
    | some home => (underHome kind).map fun d => s!"{home}/{d}"
    | none => []
  ":".intercalate (own ++ [s!"/usr/local/lib/{kind.tag}", s!"/usr/lib/{kind.tag}"])

/-- The directories that stand between colons; empty ones do not count. -/
def split (s : String) : List Path :=
  ((Text.splitAll ':' s.toList).filter fun d => !d.isEmpty).map fun d => ⟨String.ofList d⟩

/-- The directories to search for a kind, in order. -/
def directories (s : PluginSettings) (env : Environment) (kind : PluginKind) : List Path :=
  match s.pathFor kind with
  | some ds => (ds.filter fun d => !d.isEmpty).map (⟨·⟩)
  | none => split ((env.lookup (variableName kind)).getD (usual env kind))

end SearchPath

end AudioHost
