import AudioHost.Number.Binary
import AudioHost.Plugin.Identifier
import AudioHost.Text.Utf8

/-!
Descriptors as plugin libraries hold them.

A library exports one table for each kind of plugin. Nothing in a descriptor can be trusted: any
text, list or function may be missing, and a text may be no text at all.
-/

namespace AudioHost

/-- A text in a library: bytes up to a zero, or nothing. -/
abbrev NativeText := Option (List UInt8)

namespace NativeText

/-- The text, with a replacement for each part that is broken; empty if there is none. -/
def read (s : NativeText) : String :=
  match s with
  | none => ""
  | some bytes => Utf8.decodeLossy (bytes.takeWhile (· ≠ 0))

/-- A text as a library holds it. -/
def ofString (s : String) : NativeText := some (Utf8.encode s)

end NativeText

/-! ## Effects -/

/-- The range of a port, as bits that say what is meant and two bounds. -/
structure NativeRange where
  bits : UInt32
  lower : Single
  upper : Single
deriving DecidableEq, Repr

/-- The functions that the descriptor of an effect has. -/
structure EffectFunctions where
  instantiate : Bool
  connectPort : Bool
  activate : Bool
  run : Bool
  deactivate : Bool
  cleanup : Bool
deriving DecidableEq, Repr

/-- What an amplifier does: each lane multiplies the samples of one port by the gain and gives them
to another. -/
structure Amplifier where
  gain : Nat
  /-- The input and the output of each lane. -/
  lanes : List (Nat × Nat)
  /-- The port that is told the highest level of the first lane. -/
  peak : Option Nat
  /-- The port that is told the latency, which is none. -/
  latency : Option Nat
deriving DecidableEq, Repr

/-- The descriptor of an effect. -/
structure EffectDescriptor where
  number : Nat
  label : NativeText
  name : NativeText
  maker : NativeText
  copyright : NativeText
  portCount : Nat
  /-- What each port is, as bits. -/
  kinds : Option (List UInt32)
  names : Option (List NativeText)
  ranges : Option (List NativeRange)
  functions : EffectFunctions
  /-- No instance can be made. -/
  refuses : Bool
  /-- What happens to samples; nothing if none is given. -/
  amplifier : Option Amplifier
  /-- The name under which calls are listed; without one they are not. -/
  listedAs : Option String
deriving DecidableEq, Repr

/-! ## Analysers -/

/-- A parameter of an analyser. -/
structure NativeParameter where
  identifier : NativeText
  name : NativeText
  minimum : Single
  maximum : Single
  default : Single
  quantized : Bool
  step : Single
deriving DecidableEq, Repr

/-- The functions that the descriptor of an analyser has. -/
structure AnalyserFunctions where
  instantiate : Bool
  cleanup : Bool
  initialise : Bool
  reset : Bool
  getParameter : Bool
  setParameter : Bool
deriving DecidableEq, Repr

/-- The numbers that an analyser tells, each by a function of its own that may be missing. -/
structure AnalyserCounts where
  step : Option Nat
  block : Option Nat
  minChannels : Option Nat
  maxChannels : Option Nat
  outputs : Option Nat
deriving DecidableEq, Repr

/-- The configurations that an analyser accepts. -/
inductive Acceptance where
  | always
  | never
  /-- One channel, and a step and a block that are not empty. -/
  | mono
deriving DecidableEq, Repr

/-- The descriptor of an analyser. -/
structure AnalyserDescriptor where
  identifier : NativeText
  name : NativeText
  description : NativeText
  maker : NativeText
  copyright : NativeText
  version : Int
  parameters : List (Option NativeParameter)
  /-- The list of parameters can be read. -/
  tellsParameters : Bool
  functions : AnalyserFunctions
  counts : AnalyserCounts
  accepts : Acceptance
  /-- No instance can be made. -/
  refuses : Bool
  /-- The name under which calls are listed; without one they are not. -/
  listedAs : Option String
deriving DecidableEq, Repr

/-! ## Tables -/

/-- A descriptor of either kind. -/
inductive Descriptor where
  | effect (d : EffectDescriptor)
  | analyser (d : AnalyserDescriptor)
deriving DecidableEq, Repr

namespace Descriptor

/-- The label of a plugin. -/
def label : Descriptor → String
  | .effect d => d.label.read
  | .analyser d => d.identifier.read

/-- The kind of a plugin. -/
def kind : Descriptor → PluginKind
  | .effect _ => .ladspa
  | .analyser _ => .vamp

end Descriptor

/-- A table that gives a descriptor for each index up to its end. An endless one begins anew. -/
structure Table (δ : Type) where
  items : List δ
  endless : Bool

namespace Table

/-- A table without descriptors. -/
def empty {δ : Type} : Table δ := ⟨[], false⟩

/-- The descriptor at an index. -/
def at? {δ : Type} (t : Table δ) (index : Nat) : Option δ :=
  if t.endless then t.items[index % t.items.length]? else t.items[index]?

/-- The most entries that are read. -/
def limit : Nat := 4096

/-- The entries from an index on, at most so many, up to the first index without one. -/
def entriesFrom {δ : Type} (t : Table δ) : Nat → Nat → List δ
  | 0, _ => []
  | n + 1, index => match t.at? index with
    | some d => d :: t.entriesFrom n (index + 1)
    | none => []

/-- The entries that are read. -/
def entries {δ : Type} (t : Table δ) : List δ := t.entriesFrom limit 0

/-- The table with every descriptor changed. -/
def map {α β : Type} (f : α → β) (t : Table α) : Table β := ⟨t.items.map f, t.endless⟩

end Table

/-- What a library exports. -/
structure Exports where
  effects : Option (Table EffectDescriptor)
  analysers : Option (Table AnalyserDescriptor)

namespace Exports

/-- No table at all. -/
def none : Exports := ⟨.none, .none⟩

/-- The table of a kind. -/
def table? (e : Exports) : PluginKind → Option (Table Descriptor)
  | .ladspa => e.effects.map (Table.map .effect)
  | .vamp => e.analysers.map (Table.map .analyser)

/-- The library exports a symbol. -/
def hasSymbol (e : Exports) (symbol : String) : Bool :=
  PluginKind.all.any fun kind => kind.symbol == symbol && (e.table? kind).isSome

end Exports

end AudioHost
