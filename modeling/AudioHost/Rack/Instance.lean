import AudioHost.Rack.Engine

/-!
Instances of plugins.

An instance is a user of the library that it was made from. Its calls are noted in the journal.
-/

namespace AudioHost

/-- A plugin that was made and can be used. -/
structure Instance where
  /-- What tells an instance from all others. -/
  number : Nat
  /-- The rack that it was made in. -/
  rack : Nat
  identifier : Identifier
  sampleRate : Single
  /-- The number of the open library. -/
  library : Nat
  engine : Engine
deriving DecidableEq, Repr

/-- Notes calls into a plugin. -/
def Machine.noteCalls (m : Machine) (library : Nat) (listedAs : Option String)
    (calls : List NativeCall) : Machine :=
  calls.foldl (fun m c => m.note (.called library listedAs c)) m

namespace Instance

/-! ## Making instances -/

/-- The call that makes an instance. -/
def makingCall (d : Descriptor) (rate : Single) : NativeCall :=
  match d with
  | .effect _ => .instantiateEffect rate.toUInt64
  | .analyser _ => .instantiateAnalyser rate

/-- The descriptor has the function that makes instances. -/
def canMake : Descriptor → Bool
  | .effect d => d.functions.instantiate
  | .analyser d => d.functions.instantiate

/-- The function that makes instances makes none. -/
def refuses : Descriptor → Bool
  | .effect d => d.refuses
  | .analyser d => d.refuses

/-- The native side of a new instance. -/
def engineOf : Descriptor → Engine
  | .effect d => .effect (.start d)
  | .analyser d => .analyser (.start d)

/-- Makes an instance in a rack from a descriptor of an open library. -/
def create (rack : Nat) (id : Identifier) (rate : Single) (library : Nat) (d : Descriptor)
    (m : Machine) : Except PluginError Instance × Machine :=
  if !canMake d then (.error (.instantiationFailure id.label .noFunction), m)
  else
    let m := m.noteCalls library (engineOf d).listedAs [makingCall d rate]
    if refuses d then (.error (.instantiationFailure id.label .refused), m)
    else
      (.ok ⟨m.next, rack, id, rate, library, engineOf d⟩,
        { m.share library with next := m.next + 1 })

/-! ## Using instances -/

/-- Performs an operation. -/
def perform (i : Instance) (op : Operation) (m : Machine) :
    Except PluginError Reply × Instance × Machine :=
  let t := i.engine.turn op m.buffers
  let m := { m.noteCalls i.library t.engine.listedAs t.calls with buffers := t.buffers }
  (t.reply.mapError (.unsupportedOperation i.identifier.label), { i with engine := t.engine }, m)

/-- Ends an instance, which then is no user of its library any more, and tells whoever made it. -/
def finish (i : Instance) (m : Machine) : Machine :=
  let ended := (m.noteCalls i.library i.engine.listedAs i.engine.release).unshare i.library
  ended.note (.released i.number)

end Instance

end AudioHost
