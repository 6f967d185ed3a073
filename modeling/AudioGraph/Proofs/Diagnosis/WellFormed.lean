import AudioGraph.Catalogue.BuiltIn
import AudioGraph.Proofs.Diagnosis.Resolution

/-!
# Well-formed specifications

A specification is well formed if its names are distinct, all that it refers to is there, its connections lead from pins
that give to pins that take, and nothing that is required is missing.  This is said without the devices of the checks:
there is no list of the names seen so far, no index of the nodes, and no list of the pins that are fed.

Each check finds nothing exactly if its part of a specification is as it should be.  A check passes over what another
one reports, so that the parts of the later checks are only said under those of the earlier ones; all checks together
find nothing exactly in the well-formed specifications (`violations_eq_nil_iff`).
-/

namespace AudioGraph

namespace Specification

/-- Nodes of a kind are something known: their type is in the catalogue, or their variable is declared. -/
def KindKnown (spec : Specification) (catalogue : Catalogue) : NodeKind → Prop
  | .external typeName => ∃ signature, catalogue.nodeType? typeName = some signature
  | .read name | .delayedRead name | .write name => ∃ v ∈ spec.vars, v.name = name

/-- A connection leads from a pin that gives to a pin that takes, and the type of the one may feed that of the other. -/
def Wired (spec : Specification) (catalogue : Catalogue) (c : Connection) : Prop :=
  ∃ sourceType destinationType, spec.Gives catalogue c.source c.sourcePin sourceType ∧
    spec.Takes catalogue c.destination c.destinationPin destinationType ∧ catalogue.Feeds sourceType destinationType

/-- An input of a node has a connection, a literal value, or a documented value. -/
def Supplied (spec : Specification) (node : Node) (pin : InputPin) : Prop :=
  (∃ c ∈ spec.connections, c.destination = .node node.id ∧ c.destinationPin = pin.name) ∨
    pin.name ∈ node.defaults.names ∨ pin.default ≠ none

/-- The boundary has all pins that an interface asks for. -/
def Meets (spec : Specification) (i : Interface) : Prop :=
  (∀ pin ∈ i.inputs, ∃ input ∈ spec.inputs, input.name = pin.name) ∧
    ∀ pin ∈ i.outputs, ∃ output ∈ spec.outputs, output.name = pin.name

/-- The specification agrees with itself and with the catalogue. -/
structure WellFormed (spec : Specification) (catalogue : Catalogue) : Prop where
  assetType : spec.assetType ∈ catalogue.assetTypes
  interfaces : ∀ name ∈ spec.interfaces, ∃ i, catalogue.interface? name = some i
  variableNames : (spec.vars.map Variable.name).Nodup
  variableTypes : ∀ v ∈ spec.vars, v.pinType ∈ catalogue.pinTypes
  nodeIds : (spec.nodes.map Node.id).Nodup
  nodeKinds : ∀ node ∈ spec.nodes, spec.KindKnown catalogue node.kind
  connections : ∀ c ∈ spec.connections, spec.Wired catalogue c
  defaults : ∀ node ∈ spec.nodes, ∀ signature, node.HasSignature catalogue signature →
    ∀ pin ∈ node.defaults.names, ∃ input ∈ signature.inputs, input.name = pin
  requiredInputs : ∀ node ∈ spec.nodes, ∀ signature, node.HasSignature catalogue signature →
    ∀ pin ∈ signature.inputs, pin.required = true → spec.Supplied node pin
  interfacePins : ∀ name ∈ spec.interfaces, ∀ i, catalogue.interface? name = some i → spec.Meets i

end Specification

theorem Violation.ifNot_eq_nil_iff {fine : Bool} {violation : Violation} : ifNot fine violation = [] ↔ fine = true := by
  cases fine <;> simp [ifNot]

open Violation (ifNot_eq_nil_iff)

namespace PinResolver

variable {pins : PinResolver}

theorem containsBoth_iff {c : Connection} :
    pins.containsBoth c = true ↔ pins.contains c.source = true ∧ pins.contains c.destination = true := by
  rw [containsBoth, Bool.and_eq_true]

/-- A connection is faultless if both its ends are known, both its pins resolve, and the types go together. -/
theorem connectionViolations_eq_nil_iff {c : Connection} :
    pins.connectionViolations c = [] ↔ pins.containsBoth c = true ∧ ∃ sourceType destinationType,
      pins.outputType? c.source c.sourcePin = some sourceType ∧
        pins.inputType? c.destination c.destinationPin = some destinationType ∧
        pins.catalogue.isCompatible sourceType destinationType = true := by
  rw [connectionViolations]
  split
  · next known =>
    simp only [known, true_and]
    split
    · next hs hd => simp [hs, hd, ifNot_eq_nil_iff]
    · next unresolved =>
      -- one of the two pins does not resolve, and is reported
      rw [List.append_eq_nil_iff, ifNot_eq_nil_iff, ifNot_eq_nil_iff, Option.isSome_iff_exists,
        Option.isSome_iff_exists]
      constructor
      · rintro ⟨⟨sourceType, hs⟩, destinationType, hd⟩
        exact absurd hd (unresolved sourceType destinationType hs)
      · rintro ⟨sourceType, destinationType, hs, hd, -⟩
        exact absurd hd (unresolved sourceType destinationType hs)
  · next unknown =>
    rw [List.append_eq_nil_iff, ifNot_eq_nil_iff, ifNot_eq_nil_iff, ← containsBoth_iff]
    simp [unknown]

/-- A pin is fed if a connection between known ends arrives at it. -/
theorem mem_fedPins_iff {connections : List Connection} {endpoint : Endpoint} {pin : String} :
    (endpoint, pin) ∈ pins.fedPins connections ↔
      ∃ c ∈ connections, pins.containsBoth c = true ∧ c.destination = endpoint ∧ c.destinationPin = pin := by
  simp [fedPins, and_assoc]

end PinResolver

namespace Specification

variable {spec : Specification} {catalogue : Catalogue}

/-! ### One check at a time -/

theorem assetTypeViolations_eq_nil_iff :
    spec.assetTypeViolations catalogue = [] ↔ spec.assetType ∈ catalogue.assetTypes := by
  rw [assetTypeViolations, ifNot_eq_nil_iff, Catalogue.isAssetType, decide_eq_true_iff]

theorem interfaceViolations_eq_nil_iff :
    spec.interfaceViolations catalogue = [] ↔ ∀ name ∈ spec.interfaces, ∃ i, catalogue.interface? name = some i := by
  simp only [interfaceViolations, List.flatMap_eq_nil_iff, ifNot_eq_nil_iff, Option.isSome_iff_exists]

theorem variableViolations_eq_nil_iff :
    spec.variableViolations catalogue = [] ↔
      (spec.vars.map Variable.name).Nodup ∧ ∀ v ∈ spec.vars, v.pinType ∈ catalogue.pinTypes := by
  rw [← forall_mem_markRepeats_iff]
  simp only [variableViolations, List.flatMap_eq_nil_iff, List.append_eq_nil_iff, ifNot_eq_nil_iff, Bool.not_eq_true',
    Catalogue.isPinType, decide_eq_true_iff]

theorem nodeKindViolations_eq_nil_iff {node : Node} :
    spec.nodeKindViolations catalogue node = [] ↔ spec.KindKnown catalogue node.kind := by
  unfold nodeKindViolations KindKnown
  cases node.kind with
  | external typeName => exact ifNot_eq_nil_iff.trans Option.isSome_iff_exists
  | read name => exact ifNot_eq_nil_iff.trans isSome_find?_iff
  | delayedRead name => exact ifNot_eq_nil_iff.trans isSome_find?_iff
  | write name => exact ifNot_eq_nil_iff.trans isSome_find?_iff

theorem nodeViolations_eq_nil_iff :
    spec.nodeViolations catalogue = [] ↔
      (spec.nodes.map Node.id).Nodup ∧ ∀ node ∈ spec.nodes, spec.KindKnown catalogue node.kind := by
  rw [← forall_mem_markRepeats_iff]
  simp only [nodeViolations, List.flatMap_eq_nil_iff, List.append_eq_nil_iff, ifNot_eq_nil_iff, Bool.not_eq_true',
    nodeKindViolations_eq_nil_iff]

/-- Ends that give and take are known ends. -/
theorem Wired.containsBoth {c : Connection} (h : spec.Wired catalogue c) :
    (PinResolver.new spec catalogue).containsBoth c = true := by
  obtain ⟨sourceType, destinationType, gives, takes, -⟩ := h
  exact PinResolver.containsBoth_iff.2
    ⟨PinResolver.contains_new_iff.2 gives.declares, PinResolver.contains_new_iff.2 takes.declares⟩

theorem connectionViolations_eq_nil_iff_wired (distinct : (spec.nodes.map Node.id).Nodup) {c : Connection} :
    (PinResolver.new spec catalogue).connectionViolations c = [] ↔ spec.Wired catalogue c := by
  rw [PinResolver.connectionViolations_eq_nil_iff]
  simp only [PinResolver.outputType?_eq_some_iff distinct, PinResolver.inputType?_eq_some_iff distinct]
  constructor
  · rintro ⟨-, sourceType, destinationType, gives, takes, fits⟩
    exact ⟨sourceType, destinationType, gives, takes, Catalogue.isCompatible_iff_feeds.1 fits⟩
  · intro wired
    refine ⟨wired.containsBoth, ?_⟩
    obtain ⟨sourceType, destinationType, gives, takes, feeds⟩ := wired
    exact ⟨sourceType, destinationType, gives, takes, Catalogue.isCompatible_iff_feeds.2 feeds⟩

theorem wired_of_resolved (distinct : (spec.nodes.map Node.id).Nodup) {c : Connection}
    (sourceType destinationType : String)
    (gives : (PinResolver.new spec catalogue).outputType? c.source c.sourcePin = some sourceType)
    (takes : (PinResolver.new spec catalogue).inputType? c.destination c.destinationPin = some destinationType)
    (fits : catalogue.isCompatible sourceType destinationType = true) : spec.Wired catalogue c :=
  ⟨sourceType, destinationType, (PinResolver.outputType?_eq_some_iff distinct).1 gives,
    (PinResolver.inputType?_eq_some_iff distinct).1 takes, Catalogue.isCompatible_iff_feeds.1 fits⟩

theorem defaultViolations_eq_nil_iff :
    spec.defaultViolations catalogue = [] ↔
      ∀ node ∈ spec.nodes, ∀ signature, node.HasSignature catalogue signature →
        ∀ pin ∈ node.defaults.names, ∃ input ∈ signature.inputs, input.name = pin := by
  rw [defaultViolations, List.flatMap_eq_nil_iff]
  refine forall₂_congr fun node _ => ?_
  simp only [← Catalogue.signature?_eq_some_iff]
  cases catalogue.signature? node with
  | none => simp
  | some signature =>
    simp only [List.flatMap_eq_nil_iff, ifNot_eq_nil_iff, NodeSignature.input?, isSome_find?_iff, Option.some.injEq,
      forall_eq']

theorem requiredInputViolations_eq_nil_iff {fed : List (Endpoint × String)} :
    spec.requiredInputViolations catalogue fed = [] ↔
      ∀ node ∈ spec.nodes, ∀ signature, node.HasSignature catalogue signature →
        ∀ pin ∈ signature.inputs, pin.required = true →
          (.node node.id, pin.name) ∈ fed ∨ pin.name ∈ node.defaults.names ∨ pin.default ≠ none := by
  rw [requiredInputViolations, List.flatMap_eq_nil_iff]
  refine forall₂_congr fun node _ => ?_
  simp only [← Catalogue.signature?_eq_some_iff]
  cases catalogue.signature? node with
  | none => simp
  | some signature =>
    simp only [List.flatMap_eq_nil_iff, ifNot_eq_nil_iff, Option.some.injEq, forall_eq']
    refine forall₂_congr fun pin _ => ?_
    rw [← Table.isSome_get?_iff, ← Option.isSome_iff_ne_none]
    cases pin.required <;> simp [or_assoc]

theorem interfacePinViolations_eq_nil_iff :
    spec.interfacePinViolations catalogue = [] ↔
      ∀ name ∈ spec.interfaces, ∀ i, catalogue.interface? name = some i → spec.Meets i := by
  rw [interfacePinViolations, List.flatMap_eq_nil_iff]
  refine forall₂_congr fun name _ => ?_
  cases catalogue.interface? name with
  | none => simp
  | some i =>
    simp only [List.append_eq_nil_iff, List.flatMap_eq_nil_iff, ifNot_eq_nil_iff, findInput?, findOutput?,
      isSome_find?_iff, Option.some.injEq, forall_eq', Meets]

/-! ### All checks -/

/-- If every connection is wired, an input is fed exactly if a connection arrives at it. -/
theorem mem_fedPins_of_wired (wired : ∀ c ∈ spec.connections, spec.Wired catalogue c) {endpoint : Endpoint}
    {pin : String} :
    (endpoint, pin) ∈ (PinResolver.new spec catalogue).fedPins spec.connections ↔
      ∃ c ∈ spec.connections, c.destination = endpoint ∧ c.destinationPin = pin := by
  rw [PinResolver.mem_fedPins_iff]
  exact exists_congr fun c => and_congr_right fun hc => and_iff_right (wired c hc).containsBoth

/-- The checks find nothing exactly in the well-formed specifications. -/
theorem violations_eq_nil_iff : spec.violations catalogue = [] ↔ spec.WellFormed catalogue := by
  simp only [violations, List.append_eq_nil_iff, assetTypeViolations_eq_nil_iff, interfaceViolations_eq_nil_iff,
    variableViolations_eq_nil_iff, nodeViolations_eq_nil_iff, List.flatMap_eq_nil_iff, defaultViolations_eq_nil_iff,
    requiredInputViolations_eq_nil_iff, interfacePinViolations_eq_nil_iff]
  constructor
  · rintro ⟨⟨⟨⟨⟨⟨⟨asset, interfaces⟩, names, types⟩, ids, kinds⟩, connections⟩, defaults⟩, required⟩, pins⟩
    -- the connections come first: that they are wired is what makes the pins fed that they arrive at
    have wired : ∀ c ∈ spec.connections, spec.Wired catalogue c :=
      fun c hc => (connectionViolations_eq_nil_iff_wired ids).1 (connections c hc)
    refine ⟨asset, interfaces, names, types, ids, kinds, wired, defaults, ?_, pins⟩
    intro node hn signature hs pin hp hr
    exact (required node hn signature hs pin hp hr).imp_left (mem_fedPins_of_wired wired).1
  · intro h
    refine ⟨⟨⟨⟨⟨⟨⟨h.assetType, h.interfaces⟩, h.variableNames, h.variableTypes⟩, h.nodeIds, h.nodeKinds⟩, ?_⟩,
      h.defaults⟩, ?_⟩, h.interfacePins⟩
    · exact fun c hc => (connectionViolations_eq_nil_iff_wired h.nodeIds).2 (h.connections c hc)
    · intro node hn signature hs pin hp hr
      exact (h.requiredInputs node hn signature hs pin hp hr).imp_left (mem_fedPins_of_wired h.connections).2

/-- Where every connection is wired, the other checks need no look at the nodes to know which inputs are fed. -/
theorem wellFormed_of_wired (wired : ∀ c ∈ spec.connections, spec.Wired catalogue c)
    (checked : spec.assetTypeViolations catalogue ++ spec.interfaceViolations catalogue ++
      spec.variableViolations catalogue ++ spec.nodeViolations catalogue ++ spec.defaultViolations catalogue ++
      spec.requiredInputViolations catalogue (spec.connections.map fun c => (c.destination, c.destinationPin)) ++
      spec.interfacePinViolations catalogue = []) : spec.WellFormed catalogue := by
  simp only [List.append_eq_nil_iff, assetTypeViolations_eq_nil_iff, interfaceViolations_eq_nil_iff,
    variableViolations_eq_nil_iff, nodeViolations_eq_nil_iff, defaultViolations_eq_nil_iff,
    requiredInputViolations_eq_nil_iff, interfacePinViolations_eq_nil_iff] at checked
  obtain ⟨⟨⟨⟨⟨⟨asset, interfaces⟩, names, types⟩, ids, kinds⟩, defaults⟩, required⟩, pins⟩ := checked
  refine ⟨asset, interfaces, names, types, ids, kinds, wired, defaults, ?_, pins⟩
  intro node hn signature hs pin hp hr
  simpa [Supplied] using required node hn signature hs pin hp hr

/-- A specification has no diagnostics exactly if it is well formed. -/
theorem validate_eq_nil_iff_wellFormed (spec : Specification) (catalogue : Catalogue) :
    spec.validate catalogue = [] ↔ spec.WellFormed catalogue := by
  rw [validate, List.map_eq_nil_iff, violations_eq_nil_iff]

/-! ### A well-formed specification -/

/-- A filtered tone.  How strongly it is filtered is a variable, which the graph sets from its distance. -/
def tone : Specification where
  name := "Tone"
  assetType := "Patch"
  interfaces := ["UE.Attenuation"]
  vars := [⟨"Cutoff", "Float", some (.num (.int 800))⟩]
  inputs := [⟨"Distance", "Float", none⟩]
  outputs := [⟨"Out", "Audio"⟩]
  nodes := [(Node.ofKind "osc" (.external "Sine")).withDefault "Frequency" (.num (.int 220)),
    (Node.ofKind "filter" (.external "Biquad Filter")).withDefault "Bandwidth" (.num (.int 1)),
    .ofKind "get" (.read "Cutoff"), .ofKind "set" (.write "Cutoff")]
  connections := [⟨.node "osc", "Audio", .node "filter", "In"⟩,
    ⟨.node "get", "Value", .node "filter", "Cutoff Frequency"⟩, ⟨.boundary, "Distance", .node "set", "Value"⟩,
    ⟨.node "filter", "Out", .boundary, "Out"⟩]

private theorem nodeIds_tone : (tone.nodes.map Node.id).Nodup := by
  decide

-- the index of the nodes does not evaluate in proofs, so that nodes are looked up in the list
private theorem wired_tone : ∀ c ∈ tone.connections, tone.Wired .builtIn c := by
  simp only [tone, List.forall_mem_cons]
  refine ⟨?_, ?_, ?_, ?_, nofun⟩
  · exact wired_of_resolved nodeIds_tone "Audio" "Audio" (by rw [PinResolver.outputType?_node]; decide +kernel)
      (by rw [PinResolver.inputType?_node]; decide +kernel) (by decide +kernel)
  · exact wired_of_resolved nodeIds_tone "Float" "Float" (by rw [PinResolver.outputType?_node]; decide +kernel)
      (by rw [PinResolver.inputType?_node]; decide +kernel) (by decide +kernel)
  · exact wired_of_resolved nodeIds_tone "Float" "Float" (by decide +kernel)
      (by rw [PinResolver.inputType?_node]; decide +kernel) (by decide +kernel)
  · exact wired_of_resolved nodeIds_tone "Audio" "Audio" (by rw [PinResolver.outputType?_node]; decide +kernel)
      (by decide +kernel) (by decide +kernel)

theorem wellFormed_tone : tone.WellFormed .builtIn :=
  wellFormed_of_wired wired_tone (by decide +kernel)

end Specification

end AudioGraph
