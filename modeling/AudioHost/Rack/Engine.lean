import AudioHost.Machine.Basic
import AudioHost.Native.Reading

/-!
The native side of an instance: what each operation does, and which calls it makes.

An operation that is refused makes no call and changes nothing. An effect is activated and
deactivated in turns, and it runs only when every port has a buffer.
-/

namespace AudioHost

/-- The numbers that an analyser tells. -/
inductive CountKind where
  | step
  | block
  | minChannels
  | maxChannels
  | outputs
deriving DecidableEq, Repr

/-- What can be asked of an instance. -/
inductive Operation where
  /-- Gives a port a buffer, or none. -/
  | connectPort (port : Nat) (buffer : Option BufferId)
  | activate
  | run (count : Nat)
  | deactivate
  | initialise (channels step block : Nat)
  | reset
  | parameter (index : Nat)
  | setParameter (index : Nat) (value : Single)
  | count (which : CountKind)
deriving DecidableEq, Repr

namespace CountKind

/-- The name of the function that tells a number. -/
def name : CountKind → String
  | .step => "get_preferred_step_size"
  | .block => "get_preferred_block_size"
  | .minChannels => "get_min_channel_count"
  | .maxChannels => "get_max_channel_count"
  | .outputs => "get_output_count"

/-- Every number. -/
def all : List CountKind := [.step, .block, .minChannels, .maxChannels, .outputs]

/-- The number that an analyser tells, if it has the function. -/
def of? (c : AnalyserCounts) : CountKind → Option Nat
  | .step => c.step
  | .block => c.block
  | .minChannels => c.minChannels
  | .maxChannels => c.maxChannels
  | .outputs => c.outputs

end CountKind

namespace Operation

/-- The kind of plugin that an operation belongs to. -/
def kind : Operation → PluginKind
  | .connectPort _ _ => .ladspa
  | .activate => .ladspa
  | .run _ => .ladspa
  | .deactivate => .ladspa
  | _ => .vamp

/-- The name of an operation in messages. -/
def name : Operation → String
  | .connectPort _ _ => "connect_port"
  | .activate => "activate"
  | .run _ => "run"
  | .deactivate => "deactivate"
  | .initialise _ _ _ => "initialise"
  | .reset => "reset"
  | .parameter _ => "get_parameter"
  | .setParameter _ _ => "set_parameter"
  | .count which => which.name

end Operation

/-- What an operation gives back. -/
inductive Reply where
  | done
  | accepted (yes : Bool)
  | value (x : Single)
  | count (n : Nat)
deriving DecidableEq, Repr

/-! ## Engines -/

/-- The native side of an effect. -/
structure EffectEngine where
  descriptor : EffectDescriptor
  active : Bool
  /-- The ports that were given a buffer. -/
  connected : List Nat
  /-- The buffers that the plugin itself knows of, latest first. -/
  wired : List (Nat × BufferId)
deriving DecidableEq, Repr

/-- The native side of an analyser. -/
structure AnalyserEngine where
  descriptor : AnalyserDescriptor
  /-- The values of the parameters. -/
  values : List Single
deriving DecidableEq, Repr

/-- The native side of an instance. -/
inductive Engine where
  | effect (e : EffectEngine)
  | analyser (a : AnalyserEngine)
deriving DecidableEq, Repr

/-- What an operation comes to. -/
structure Turn where
  reply : Except OperationFault Reply
  engine : Engine
  calls : List NativeCall
  buffers : Buffers

namespace Turn

/-- Nothing happens but an answer. -/
def answer (e : Engine) (b : Buffers) (r : Reply) : Turn := ⟨.ok r, e, [], b⟩

/-- The operation is refused. -/
def refuse (e : Engine) (b : Buffers) (fault : OperationFault) : Turn := ⟨.error fault, e, [], b⟩

end Turn

/-- A call that is made if the plugin has the function. -/
def callIf (has : Bool) (c : NativeCall) : List NativeCall := if has then [c] else []

/-! ## Amplifiers -/

namespace Amplifier

/-- Multiplies the first samples of a lane into its output, if all of its ports are wired. The
highest level of what is written comes out; it is zero if nothing is. -/
def runLane (a : Amplifier) (wired : List (Nat × BufferId)) (count : Nat) (lane : Nat × Nat)
    (b : Buffers) : Single × Buffers :=
  match wired.lookup a.gain, wired.lookup lane.1, wired.lookup lane.2 with
  | some gain, some input, some output =>
    let factor := (b.samples gain).head?.getD .zero
    let written := ((b.samples input).take count).map fun x => x.mul factor
    let level := (written.map Single.abs).foldl Single.max .zero
    (level, b.put output (written ++ (b.samples output).drop written.length))
  | _, _, _ => (.zero, b)

/-- Runs lanes in order and tells the level of each. -/
def runLanes (a : Amplifier) (wired : List (Nat × BufferId)) (count : Nat) :
    List (Nat × Nat) → Buffers → List Single × Buffers
  | [], b => ([], b)
  | lane :: lanes, b =>
    let (level, b) := a.runLane wired count lane b
    let (levels, b) := a.runLanes wired count lanes b
    (level :: levels, b)

/-- Sets the first sample of the buffer of a port, if it has one. -/
def tell (wired : List (Nat × BufferId)) (port : Option Nat) (x : Single) (b : Buffers) :
    Buffers :=
  match port.bind fun p => wired.lookup p with
  | some id => b.put id (x :: (b.samples id).drop 1)
  | none => b

/-- Runs an amplifier over some samples. -/
def run (a : Amplifier) (wired : List (Nat × BufferId)) (count : Nat) (b : Buffers) : Buffers :=
  let (levels, b) := a.runLanes wired count a.lanes b
  tell wired a.latency .zero (tell wired a.peak (levels.head?.getD .zero) b)

end Amplifier

/-! ## Effects -/

namespace EffectEngine

/-- A new effect: not active, nothing connected. -/
def start (d : EffectDescriptor) : EffectEngine := ⟨d, false, [], []⟩

/-- Gives a port a buffer. -/
def connect (e : EffectEngine) (port : Nat) (buffer : Option BufferId) (b : Buffers) : Turn :=
  if e.descriptor.portCount ≤ port then .refuse (.effect e) b (.portOutOfRange port)
  else match buffer with
    | none => .refuse (.effect e) b (.nullBuffer port)
    | some id =>
      let has := e.descriptor.functions.connectPort
      let wired := if has then (port, id) :: e.wired else e.wired
      ⟨.ok .done, .effect { e with connected := port :: e.connected, wired },
        callIf has (.connectPort port), b⟩

/-- Activates an effect, unless it is active. -/
def activate (e : EffectEngine) (b : Buffers) : Turn :=
  if e.active then .answer (.effect e) b .done
  else ⟨.ok .done, .effect { e with active := true },
    callIf e.descriptor.functions.activate .activate, b⟩

/-- Deactivates an effect, if it is active. -/
def deactivate (e : EffectEngine) (b : Buffers) : Turn :=
  if e.active then
    ⟨.ok .done, .effect { e with active := false },
      callIf e.descriptor.functions.deactivate .deactivate, b⟩
  else .answer (.effect e) b .done

/-- The lowest port without a buffer. -/
def unconnected? (e : EffectEngine) : Option Nat :=
  (List.range e.descriptor.portCount).find? fun port => !e.connected.contains port

/-- Runs an effect over some samples. -/
def run (e : EffectEngine) (count : Nat) (b : Buffers) : Turn :=
  match e.unconnected? with
  | some port => .refuse (.effect e) b (.unconnected port)
  | none =>
    if e.descriptor.functions.run then
      let b := match e.descriptor.amplifier with
        | some a => a.run e.wired count b
        | none => b
      ⟨.ok .done, .effect e, [.run count], b⟩
    else .refuse (.effect e) b (.missingFunction "run")

/-- The calls that end an effect. -/
def release (e : EffectEngine) : List NativeCall :=
  callIf (e.active && e.descriptor.functions.deactivate) .deactivate ++
    callIf e.descriptor.functions.cleanup .cleanup

end EffectEngine

/-! ## Analysers -/

namespace AnalyserEngine

/-- A new analyser, whose parameters have their defaults. -/
def start (d : AnalyserDescriptor) : AnalyserEngine :=
  ⟨d, d.parameters.map fun p => (p.map NativeParameter.default).getD .zero⟩

/-- A number as 32 bits without sign. -/
def word (n : Nat) : Nat := n % 0x100000000

/-- A number as 32 bits with sign. -/
def signed (n : Nat) : Int := Int.bmod n 0x100000000

/-- An analyser accepts a configuration. -/
def accepts (d : AnalyserDescriptor) (channels step block : Nat) : Bool :=
  match d.accepts with
  | .always => true
  | .never => false
  | .mono => channels == 1 && 0 < step && 0 < block

/-- Prepares an analyser. -/
def initialise (a : AnalyserEngine) (channels step block : Nat) (b : Buffers) : Turn :=
  if a.descriptor.functions.initialise then
    let channels := word channels
    let step := word step
    let block := word block
    ⟨.ok (.accepted (accepts a.descriptor channels step block)), .analyser a,
      [.initialise channels step block], b⟩
  else .refuse (.analyser a) b (.missingFunction "initialise")

/-- Takes an analyser back to its start. -/
def reset (a : AnalyserEngine) (b : Buffers) : Turn :=
  ⟨.ok .done, .analyser a, callIf a.descriptor.functions.reset .reset, b⟩

/-- The value of a parameter; zero if there is none at the index. -/
def valueAt (a : AnalyserEngine) (index : Int) : Single :=
  match index with
  | .ofNat n => a.values[n]?.getD .zero
  | .negSucc _ => .zero

/-- Reads a parameter. -/
def parameter (a : AnalyserEngine) (index : Nat) (b : Buffers) : Turn :=
  if a.descriptor.functions.getParameter then
    ⟨.ok (.value (a.valueAt (signed index))), .analyser a, [.getParameter (signed index)], b⟩
  else .refuse (.analyser a) b (.missingFunction "get_parameter")

/-- The values with the one at an index changed, if there is one. -/
def valuesWith (a : AnalyserEngine) (index : Int) (x : Single) : List Single :=
  match index with
  | .ofNat n => a.values.set n x
  | .negSucc _ => a.values

/-- Sets a parameter. -/
def setParameter (a : AnalyserEngine) (index : Nat) (x : Single) (b : Buffers) : Turn :=
  if a.descriptor.functions.setParameter then
    ⟨.ok .done, .analyser { a with values := a.valuesWith (signed index) x },
      [.setParameter (signed index)], b⟩
  else .refuse (.analyser a) b (.missingFunction "set_parameter")

/-- Asks for a number that an analyser tells; 0 if it does not tell it. -/
def count (a : AnalyserEngine) (which : CountKind) (b : Buffers) : Turn :=
  let told := which.of? a.descriptor.counts
  ⟨.ok (.count (told.getD 0)), .analyser a, callIf told.isSome (.askCount which.name), b⟩

/-- The calls that end an analyser. -/
def release (a : AnalyserEngine) : List NativeCall :=
  callIf a.descriptor.functions.cleanup .cleanup

end AnalyserEngine

/-! ## Both -/

namespace Engine

/-- What an operation comes to. One that belongs to the other kind is refused. -/
def turn (e : Engine) (op : Operation) (b : Buffers) : Turn :=
  match e, op with
  | .effect e, .connectPort port buffer => e.connect port buffer b
  | .effect e, .activate => e.activate b
  | .effect e, .run count => e.run count b
  | .effect e, .deactivate => e.deactivate b
  | .analyser a, .initialise channels step block => a.initialise channels step block b
  | .analyser a, .reset => a.reset b
  | .analyser a, .parameter index => a.parameter index b
  | .analyser a, .setParameter index x => a.setParameter index x b
  | .analyser a, .count which => a.count which b
  | e, op => .refuse e b (.wrongKind op.name op.kind)

/-- The calls that end an instance. -/
def release : Engine → List NativeCall
  | .effect e => e.release
  | .analyser a => a.release

/-- The name under which calls are listed. -/
def listedAs : Engine → Option String
  | .effect e => e.descriptor.listedAs
  | .analyser a => a.descriptor.listedAs

end Engine

end AudioHost
