import AudioGraph.Catalogue.Load

/-!
# The built-in catalogue

Three types of assets, eighteen types of pins, five interfaces and fourteen types of nodes: generators, envelopes, a
filter, a delay, arithmetic, a mixer and triggers.  It declares every pin type that it names (`closed_builtIn`).
-/

namespace AudioGraph

namespace Catalogue

private def real (x : Float) : Json := .ofFloat x

private def int (n : Int) : Json := .num (.int n)

/-- An input that must be connected or get a value from its node. -/
private def needed (name pinType : String) : InputPin := ⟨name, pinType, true, none⟩

/-- A required input with a documented value. -/
private def neededOr (name pinType : String) (value : Json) : InputPin := ⟨name, pinType, true, some value⟩

/-- An input that may stay without a value. -/
private def spare (name pinType : String) : InputPin := ⟨name, pinType, false, none⟩

/-- An input that may stay without a value, and has a documented one. -/
private def spareOr (name pinType : String) (value : Json) : InputPin := ⟨name, pinType, false, some value⟩

/-- The pin types of the built-in catalogue. -/
private def builtInPinTypes : NameSet :=
  .ofList ["Audio", "Trigger", "Float", "Int32", "Bool", "Time", "String", "UObject", "Enum", "WaveAsset", "Audio[]",
    "Trigger[]", "Float[]", "Int32[]", "Bool[]", "Time[]", "String[]", "WaveAsset[]"]

/-- Which pin types of the built-in catalogue feed which. -/
private def builtInCompatibility : Table NameSet :=
  .ofList [("Audio", .ofList ["Audio", "Float"]), ("Trigger", .ofList ["Trigger"]),
    ("Float", .ofList ["Float", "Audio", "Time"]), ("Int32", .ofList ["Int32", "Float"]),
    ("Bool", .ofList ["Bool"]), ("Time", .ofList ["Time", "Float"]), ("String", .ofList ["String"]),
    ("UObject", .ofList ["UObject", "WaveAsset"]), ("Enum", .ofList ["Enum", "Int32"]),
    ("WaveAsset", .ofList ["WaveAsset", "UObject"]), ("Audio[]", .ofList ["Audio[]"]),
    ("Trigger[]", .ofList ["Trigger[]"]), ("Float[]", .ofList ["Float[]"]), ("Int32[]", .ofList ["Int32[]"]),
    ("Bool[]", .ofList ["Bool[]"]), ("Time[]", .ofList ["Time[]"]), ("String[]", .ofList ["String[]"]),
    ("WaveAsset[]", .ofList ["WaveAsset[]"])]

/-- The interfaces of the built-in catalogue. -/
private def builtInInterfaces : Table Interface :=
  .ofList [
    ("UE.Source.OneShot", {
      inputs := [⟨"OnPlay", "Trigger"⟩]
      outputs := [⟨"OnFinished", "Trigger"⟩, ⟨"Out Mono", "Audio"⟩, ⟨"Out Stereo L", "Audio"⟩,
        ⟨"Out Stereo R", "Audio"⟩] }),
    ("UE.Source.Looping", {
      inputs := [⟨"OnPlay", "Trigger"⟩, ⟨"OnStop", "Trigger"⟩]
      outputs := [⟨"OnFinished", "Trigger"⟩, ⟨"OnLooped", "Trigger"⟩, ⟨"Out Mono", "Audio"⟩,
        ⟨"Out Stereo L", "Audio"⟩, ⟨"Out Stereo R", "Audio"⟩] }),
    ("UE.Source.Default", {
      inputs := [⟨"OnPlay", "Trigger"⟩]
      outputs := [⟨"OnFinished", "Trigger"⟩, ⟨"Out Mono", "Audio"⟩, ⟨"Out Stereo L", "Audio"⟩,
        ⟨"Out Stereo R", "Audio"⟩] }),
    ("UE.Attenuation", ⟨[⟨"Distance", "Float"⟩], []⟩),
    ("UE.Spatialization", ⟨[⟨"Azimuth", "Float"⟩, ⟨"Elevation", "Float"⟩], []⟩)]

/-- The node types of the built-in catalogue. -/
private def builtInNodeTypes : Table NodeSignature :=
  .ofList [
    ("Sine", {
      inputs := [neededOr "Enabled" "Bool" (.bool true), spareOr "Bi Polar" "Bool" (.bool false),
        neededOr "Frequency" "Float" (real 440.0), spare "Modulation" "Audio", spare "Sync" "Trigger",
        spareOr "Phase Offset" "Float" (real 0.0), spareOr "Glide" "Float" (real 0.0), spare "Type" "Enum"]
      outputs := [⟨"Audio", "Audio"⟩] }),
    ("Saw", {
      inputs := [neededOr "Enabled" "Bool" (.bool true), spareOr "Bi Polar" "Bool" (.bool false),
        neededOr "Frequency" "Float" (real 440.0), spare "Modulation" "Audio", spare "Sync" "Trigger",
        spareOr "Phase Offset" "Float" (real 0.0), spareOr "Glide" "Float" (real 0.0), spare "Type" "Enum"]
      outputs := [⟨"Audio", "Audio"⟩] }),
    ("Noise", ⟨[spareOr "Seed" "Int32" (int (-1)), spare "Type" "Enum"], [⟨"Audio", "Audio"⟩]⟩),
    ("AD Envelope", {
      inputs := [needed "Trigger" "Trigger", neededOr "Attack Time" "Time" (real 0.01),
        neededOr "Decay Time" "Time" (real 0.1), spareOr "Attack Curve" "Float" (real 1.0),
        spareOr "Decay Curve" "Float" (real 1.0), spareOr "Looping" "Bool" (.bool false),
        spareOr "Hard Reset" "Bool" (.bool false)]
      outputs := [⟨"On Trigger", "Trigger"⟩, ⟨"On Done", "Trigger"⟩, ⟨"Out Envelope", "Audio"⟩] }),
    ("ADSR Envelope (Float)", {
      inputs := [needed "Trigger" "Trigger", neededOr "Attack" "Time" (real 0.01), neededOr "Decay" "Time" (real 0.1),
        neededOr "Sustain" "Float" (real 0.7), neededOr "Release" "Time" (real 0.2)]
      outputs := [⟨"Envelope", "Float"⟩, ⟨"OnDone", "Trigger"⟩] }),
    ("Biquad Filter", {
      inputs := [needed "In" "Audio", needed "Cutoff Frequency" "Float", needed "Bandwidth" "Float",
        spare "Gain" "Float", spare "Type" "Enum"]
      outputs := [⟨"Out", "Audio"⟩] }),
    ("Delay", {
      inputs := [spareOr "Feedback" "Float" (real 0.3), needed "In" "Audio", spareOr "Delay Time" "Time" (real 0.5),
        neededOr "Dry Level" "Float" (real 1.0), neededOr "Wet Level" "Float" (real 1.0),
        spare "Max Delay Time" "Time"]
      outputs := [⟨"Out", "Audio"⟩] }),
    ("Add (Float)", {
      inputs := [neededOr "PrimaryOperand" "Float" (real 0.0), neededOr "AdditionalOperands" "Float" (real 0.0)]
      outputs := [⟨"Out", "Float"⟩] }),
    ("Multiply (Float)", {
      inputs := [neededOr "PrimaryOperand" "Float" (real 1.0), neededOr "AdditionalOperands" "Float" (real 1.0)]
      outputs := [⟨"Out", "Float"⟩] }),
    ("Multiply (Audio by Float)", {
      inputs := [needed "PrimaryOperand" "Audio", neededOr "AdditionalOperands" "Float" (real 1.0)]
      outputs := [⟨"Out", "Audio"⟩] }),
    ("Mono Mixer", {
      inputs := [needed "In 0" "Audio", neededOr "Gain 0" "Float" (real 1.0), spare "In 1" "Audio",
        spareOr "Gain 1" "Float" (real 1.0), spare "In 2" "Audio", spareOr "Gain 2" "Float" (real 1.0),
        spare "In 3" "Audio", spareOr "Gain 3" "Float" (real 1.0)]
      outputs := [⟨"Out", "Audio"⟩] }),
    ("Trigger Repeat", {
      inputs := [spare "Start" "Trigger", spare "Stop" "Trigger", neededOr "Period" "Time" (real 0.5),
        spareOr "Num Repeats" "Int32" (int (-1))]
      outputs := [⟨"RepeatOut", "Trigger"⟩] }),
    ("Random Get (WaveAssetArray)", {
      inputs := [spare "Next" "Trigger", spare "Reset" "Trigger", needed "In Array" "WaveAsset[]",
        spare "Weights" "Float[]", spareOr "Seed" "Int32" (int (-1)), spareOr "No Repeats" "Int32" (int 1)]
      outputs := [⟨"On Next", "Trigger"⟩, ⟨"On Reset", "Trigger"⟩, ⟨"Value", "WaveAsset"⟩] }),
    ("Print Log", {
      inputs := [spare "Trigger" "Trigger", spareOr "Label" "String" (.str "MetaSound"),
        needed "Value To Log" "Trigger"]
      outputs := [] })]

/-- The catalogue that specifications are checked against if no other one is given. -/
def builtIn : Catalogue :=
  { assetTypes := .ofList ["Patch", "Preset", "Source"]
    pinTypes := builtInPinTypes
    compatibility := builtInCompatibility
    interfaces := builtInInterfaces
    nodeTypes := builtInNodeTypes }

/-- The built-in catalogue declares every pin type that it names. -/
theorem closed_builtIn : builtIn.Closed := by
  unfold Closed
  decide +kernel

end Catalogue

end AudioGraph
