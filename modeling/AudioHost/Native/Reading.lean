import AudioHost.Native.Descriptor
import AudioHost.Plugin.Error
import AudioHost.Plugin.Record

/-!
Records copied from descriptors.
-/

namespace AudioHost

/-! ## Ports of effects -/

namespace NativeRange

/-- A bit is set. -/
def has (r : NativeRange) (bit : UInt32) : Bool := r.bits &&& bit != 0

/-- The default that the bits ask for. -/
def policy (r : NativeRange) : DefaultPolicy :=
  let choices : List (UInt32 × DefaultPolicy) :=
    [(0x40, .minimum), (0x80, .low), (0xC0, .middle), (0x100, .high), (0x140, .maximum),
      (0x200, .zero), (0x240, .one), (0x280, .hundred), (0x2C0, .fourForty)]
  (choices.lookup (r.bits &&& 0x3C0)).getD .none

/-- The hints that the bits give. -/
def hints (r : NativeRange) : PortHints where
  toggled := r.has 4
  sampleRate := r.has 8
  logarithmic := r.has 16
  integer := r.has 32

end NativeRange

/-- A port of an effect. -/
def effectPort (index : Nat) (kind : UInt32) (name : NativeText) (range : NativeRange) : Port where
  index
  name := name.read
  direction := if kind &&& 2 != 0 then .output else .input
  signal := if kind &&& 8 != 0 then .audio else .control
  hints := range.hints
  lower := if range.has 1 then some range.lower else none
  upper := if range.has 2 then some range.upper else none
  policy := range.policy
  given := none

namespace EffectDescriptor

/-- The port at an index of three lists. -/
def portAt (kinds : List UInt32) (names : List NativeText) (ranges : List NativeRange)
    (index : Nat) : Port :=
  effectPort index (kinds[index]?.getD 0) (names[index]?.getD none)
    (ranges[index]?.getD ⟨0, .zero, .zero⟩)

/-- The ports of an effect, if all three lists about them are there. -/
def ports? (d : EffectDescriptor) : Option (List Port) :=
  if d.portCount = 0 then some []
  else match d.kinds, d.names, d.ranges with
    | some kinds, some names, some ranges =>
      some ((List.range d.portCount).map (portAt kinds names ranges))
    | _, _, _ => none

end EffectDescriptor

/-! ## Parameters of analysers -/

/-- A parameter of an analyser as a port. Without a name it is called by its identifier. -/
def parameterPort (index : Nat) (p : NativeParameter) : Port where
  index
  name := if p.name.read.isEmpty then p.identifier.read else p.name.read
  direction := .input
  signal := .control
  hints :=
    let whole := p.quantized && p.step.eq .one
    ⟨whole && p.minimum.eq .zero && p.maximum.eq .one, whole, false, false⟩
  lower := some p.minimum
  upper := some p.maximum
  policy := .explicit p.default
  given := none

/-- The parameters of an analyser as ports. One that is missing leaves its index unused. -/
def AnalyserDescriptor.ports (d : AnalyserDescriptor) : List Port :=
  if d.tellsParameters then
    d.parameters.zipIdx.filterMap fun (p, index) => p.map (parameterPort index)
  else []

/-! ## Records -/

/-- The identifier of a plugin in a library, or what is wrong with its label. -/
def nativeIdentifier (kind : PluginKind) (library : Path) (label : String) :
    Except PluginError Identifier :=
  (Identifier.checked kind library.text label).mapError fun e =>
    .malformedDescriptor library (.badIdentifier e)

namespace EffectDescriptor

/-- The record of an effect. -/
def record (d : EffectDescriptor) (library : Path) : Except PluginError Record :=
  match d.ports? with
  | none => .error (.malformedDescriptor library (.missingPortArrays d.portCount))
  | some ports =>
    (nativeIdentifier .ladspa library d.label.read).map fun identifier => {
      identifier
      uniqueId := .number d.number
      label := d.label.read
      name := d.name.read
      maker := d.maker.read
      copyright := d.copyright.read
      description := ""
      version := none
      ports
      category := "" }

end EffectDescriptor

namespace AnalyserDescriptor

/-- The record of an analyser. -/
def record (d : AnalyserDescriptor) (library : Path) : Except PluginError Record :=
  (nativeIdentifier .vamp library d.identifier.read).map fun identifier => {
    identifier
    uniqueId := .text d.identifier.read
    label := d.identifier.read
    name := d.name.read
    maker := d.maker.read
    copyright := d.copyright.read
    description := d.description.read
    version := some d.version
    ports := d.ports
    category := "" }

end AnalyserDescriptor

/-- The record of a descriptor. -/
def Descriptor.record (d : Descriptor) (library : Path) : Except PluginError Record :=
  match d with
  | .effect d => d.record library
  | .analyser d => d.record library

end AudioHost
