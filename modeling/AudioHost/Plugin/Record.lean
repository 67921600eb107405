import AudioHost.Plugin.Identifier
import AudioHost.Plugin.Port

/-!
What is known about one plugin, copied from its library.
-/

namespace AudioHost

/-- The number or text that tells a plugin from all others. -/
inductive UniqueId where
  | number (n : Nat)
  | text (s : String)
deriving DecidableEq, Repr

/-- A unique id as text. -/
def UniqueId.shown : UniqueId → String
  | .number n => toString n
  | .text s => s

/-- What is known about one plugin. -/
structure Record where
  identifier : Identifier
  uniqueId : UniqueId
  label : String
  name : String
  maker : String
  copyright : String
  description : String
  version : Option Int
  ports : List Port
  category : String
deriving DecidableEq, Repr

namespace Record

/-- The kind of the plugin. -/
def kind (r : Record) : PluginKind := r.identifier.kind

/-- The number of ports for a user to adjust. -/
def parameterCount (r : Record) : Nat := r.ports.countP Port.isParameter

/-- The ports of a signal and direction. -/
def portsOf (r : Record) (signal : Signal) (direction : Direction) : List Port :=
  r.ports.filter fun p => p.signal = signal && p.direction = direction

/-- The number of audio inputs. -/
def audioInputs (r : Record) : Nat := (r.portsOf .audio .input).length

/-- The number of audio outputs. -/
def audioOutputs (r : Record) : Nat := (r.portsOf .audio .output).length

/-- The names of the control outputs, without those that report latency. -/
def controlOutputs (r : Record) : List String :=
  ((r.portsOf .control .output).map Port.name).filter fun name =>
    name != "latency" && name != "_latency"

end Record

end AudioHost
