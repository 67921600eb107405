import AudioHost.Native.Descriptor
import AudioHost.Native.Specimen

/-!
What the specimen libraries export.
-/

namespace AudioHost

namespace Specimen

/-! ## Effects -/

/-- A whole number, or a fraction of two. -/
def number (num den : Nat) : Single := .ofMagnitude false (Shape.single.ofRatio num den)

/-- Bits of a port: it takes or gives, control values or samples. -/
def controlIn : UInt32 := 5
def controlOut : UInt32 := 6
def audioIn : UInt32 := 9
def audioOut : UInt32 := 10

/-- A port without a range. -/
def free (kind : UInt32) (name : String) : UInt32 × String × NativeRange :=
  (kind, name, ⟨0, .zero, .zero⟩)

/-- The gain of an amplifier: between 0 and 10, logarithmic, 1 by default. -/
def gain : UInt32 × String × NativeRange :=
  (controlIn, "Gain", ⟨0x1 ||| 0x2 ||| 0x10 ||| 0x240, .zero, number 10 1⟩)

/-- The time of a delay: up to half a second, in fractions of the sample rate. -/
def delayTime : UInt32 × String × NativeRange :=
  (controlIn, "Delay", ⟨0x1 ||| 0x2 ||| 0x8 ||| 0xC0, .zero, number 1 2⟩)

/-- An effect with a row of ports. -/
def effect (n : Nat) (label name : String) (ports : List (UInt32 × String × NativeRange))
    (runs : Bool) (amplifier : Option Amplifier) : EffectDescriptor where
  number := n
  label := .ofString label
  name := .ofString name
  maker := .ofString "Annot Fixtures"
  copyright := .ofString "None"
  portCount := ports.length
  kinds := some (ports.map (·.1))
  names := some (ports.map fun p => .ofString p.2.1)
  ranges := some (ports.map (·.2.2))
  functions := ⟨true, true, runs, runs, runs, true⟩
  refuses := false
  amplifier
  listedAs := none

/-- Amplifies one signal and tells its highest level. -/
def mono : EffectDescriptor :=
  effect 1048 "amp_mono" "Mono Amplifier"
    [gain, free audioIn "Input", free audioOut "Output", free controlOut "Peak",
      free controlOut "latency"]
    true (some ⟨0, [(1, 2)], some 3, some 4⟩)

/-- Amplifies two signals. -/
def stereo : EffectDescriptor :=
  effect 1049 "amp_stereo" "Stereo Amplifier"
    [gain, free audioIn "Input L", free audioIn "Input R", free audioOut "Output L",
      free audioOut "Output R"]
    true (some ⟨0, [(1, 3), (2, 4)], none, none⟩)

/-- A delay that cannot run. -/
def delay : EffectDescriptor := effect 2001 "delay" "Simple Delay" [delayTime] false none

/-! ## Analysers -/

/-- A parameter of an analyser. -/
def parameter (identifier name : String) (maximum default : Nat) (quantized : Bool) :
    NativeParameter where
  identifier := .ofString identifier
  name := .ofString name
  minimum := .zero
  maximum := number maximum 1
  default := number default 1
  quantized
  step := if quantized then .one else .zero

/-- An analyser of one channel. -/
def analyser (identifier name : String) (parameters : List NativeParameter) (refuses : Bool) :
    AnalyserDescriptor where
  identifier := .ofString identifier
  name := .ofString name
  description := .ofString "Fixture analyser"
  maker := .ofString "Annot Fixtures"
  copyright := .ofString "None"
  version := 2
  parameters := parameters.map some
  tellsParameters := !parameters.isEmpty
  functions := ⟨true, true, true, true, true, true⟩
  counts := ⟨some 512, some 1024, some 1, some 1, some 1⟩
  accepts := .mono
  refuses
  listedAs := none

/-- Detects onsets. -/
def onsets : AnalyserDescriptor :=
  analyser "onsetdetector" "Note Onset Detector"
    [parameter "sensitivity" "Sensitivity" 100 50 false,
      parameter "dftype" "Detection Function" 4 3 true]
    false

/-- Tracks the tempo. -/
def tempo : AnalyserDescriptor := analyser "tempo" "Tempo Tracker" [] false

/-- Cannot be made. -/
def broken : AnalyserDescriptor := analyser "broken" "Broken Analyser" [] true

/-- Is listed twice. -/
def twin : AnalyserDescriptor := analyser "a" "A" [] false

/-! ## Tables -/

/-- What a library exports, if it can be loaded. -/
def exports? : Specimen → Option Exports
  | .amplifiers => some ⟨some ⟨[mono, stereo], false⟩, none⟩
  | .repeatedDelay => some ⟨some ⟨[delay, delay], false⟩, none⟩
  | .analysers => some ⟨none, some ⟨[onsets, tempo, broken], false⟩⟩
  | .repeatedAnalyser => some ⟨none, some ⟨[twin, twin], false⟩⟩
  | .bare => some ⟨none, none⟩
  | .unloadable => none

end Specimen

end AudioHost
