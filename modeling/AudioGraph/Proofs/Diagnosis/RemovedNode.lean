import AudioGraph.Proofs.Diagnosis.Order

/-!
# What the removal of a node leaves behind

A node is removed together with the connections that start or end at it.  If nothing was wrong with the graph, then the
other connections lead where they led, since the ids of the nodes are distinct.  What may be missing afterwards are the
values that the node has given: a required input without a value of its own is unfed if all its connections came from
the node.

* (pins) What gives and takes values goes on to do so, the removed node aside (`Gives.removeNode`, `Takes.removeNode`).
* (inputs) An input is unfed after the removal exactly if it depends on the removed node (`unfedInputs_removeNode`).
* (diagnoses) Nothing else is reported (`violations_removeNode`).
-/

namespace AudioGraph

/-- A connection starts or ends at a node. -/
def Connection.touches (c : Connection) (id : String) : Bool := c.source == .node id || c.destination == .node id

theorem Connection.touches_eq_false_iff {c : Connection} {id : String} :
    c.touches id = false ↔ c.source ≠ .node id ∧ c.destination ≠ .node id := by
  rw [touches, Bool.or_eq_false_iff, beq_eq_false_iff_ne, beq_eq_false_iff_ne]

namespace Specification

/-- The specification without a node, and without the connections that start or end at it. -/
def removeNode (spec : Specification) (node : Node) : Specification :=
  { spec with
    nodes := spec.nodes.erase node
    connections := spec.connections.filter fun c => !c.touches node.id }

/-- An input of a node is required and has no value of its own, and it is connected to nothing but another node. -/
structure DependsOn (spec : Specification) (m : Node) (pin : InputPin) (node : Node) : Prop where
  required : pin.required = true
  unset : pin.name ∉ m.defaults.names
  undocumented : pin.default = none
  fed : ∃ c ∈ spec.connections, c.destination = .node m.id ∧ c.destinationPin = pin.name
  only : ∀ c ∈ spec.connections, c.destination = .node m.id → c.destinationPin = pin.name → c.source = .node node.id

instance (spec : Specification) (m : Node) (pin : InputPin) (node : Node) : Decidable (spec.DependsOn m pin node) :=
  decidable_of_iff
    (pin.required = true ∧ pin.name ∉ m.defaults.names ∧ pin.default = none ∧
      (∃ c ∈ spec.connections, c.destination = .node m.id ∧ c.destinationPin = pin.name) ∧
      ∀ c ∈ spec.connections, c.destination = .node m.id → c.destinationPin = pin.name → c.source = .node node.id)
    ⟨fun ⟨required, unset, undocumented, fed, only⟩ => ⟨required, unset, undocumented, fed, only⟩,
      fun h => ⟨h.required, h.unset, h.undocumented, h.fed, h.only⟩⟩

/-- The violations of the inputs of a node that depend on another node. -/
def dependentInputs (spec : Specification) (catalogue : Catalogue) (node m : Node) : List Violation :=
  match catalogue.signature? m with
  | none => []
  | some signature =>
    (signature.inputs.filter fun pin => spec.DependsOn m pin node).map fun pin =>
      .unfedInput m.id m.kind.typeName pin.name

variable {spec : Specification} {catalogue : Catalogue} {node m : Node} {c : Connection}

/-! ### Pins -/

theorem mem_connections_removeNode :
    c ∈ (spec.removeNode node).connections ↔
      c ∈ spec.connections ∧ c.source ≠ .node node.id ∧ c.destination ≠ .node node.id := by
  rw [removeNode, List.mem_filter, Bool.not_eq_true', Connection.touches_eq_false_iff]

theorem mem_nodes_removeNode_of_ne (hm : m ∈ spec.nodes) (other : m.id ≠ node.id) :
    m ∈ (spec.removeNode node).nodes := by
  have ne : m ≠ node := fun same => other (same ▸ rfl)
  exact (List.mem_erase_of_ne ne).2 hm

theorem KindGives.removeNode {kind : NodeKind} {pin pinType : String} (h : spec.KindGives catalogue kind pin pinType) :
    (spec.removeNode node).KindGives catalogue kind pin pinType := by
  cases h with
  | external hs ho => exact .external hs ho
  | read hv => exact .read hv
  | delayedRead hv => exact .delayedRead hv

theorem KindTakes.removeNode {kind : NodeKind} {pin pinType : String} (h : spec.KindTakes catalogue kind pin pinType) :
    (spec.removeNode node).KindTakes catalogue kind pin pinType := by
  cases h with
  | external hs hi => exact .external hs hi
  | value hv => exact .value hv
  | execute => exact .execute

theorem Gives.removeNode {endpoint : Endpoint} {pin pinType : String}
    (h : spec.Gives catalogue endpoint pin pinType) (other : endpoint ≠ .node node.id) :
    (spec.removeNode node).Gives catalogue endpoint pin pinType := by
  cases h with
  | boundary first => exact .boundary first
  | node hm gives =>
    have ne := fun same => other (congrArg Endpoint.node same)
    exact .node (mem_nodes_removeNode_of_ne hm ne) gives.removeNode

theorem Takes.removeNode {endpoint : Endpoint} {pin pinType : String}
    (h : spec.Takes catalogue endpoint pin pinType) (other : endpoint ≠ .node node.id) :
    (spec.removeNode node).Takes catalogue endpoint pin pinType := by
  cases h with
  | boundary first => exact .boundary first
  | node hm takes =>
    have ne := fun same => other (congrArg Endpoint.node same)
    exact .node (mem_nodes_removeNode_of_ne hm ne) takes.removeNode

theorem WellFormed.wired_removeNode (wf : spec.WellFormed catalogue) :
    ∀ c ∈ (spec.removeNode node).connections, (spec.removeNode node).Wired catalogue c := by
  intro c hc
  obtain ⟨hc, hs, hd⟩ := mem_connections_removeNode.1 hc
  obtain ⟨sourceType, destinationType, gives, takes, feeds⟩ := wf.connections c hc
  exact ⟨sourceType, destinationType, gives.removeNode hs, takes.removeNode hd, feeds⟩

/-! ### Inputs -/

/-- A remaining node has another id. -/
theorem WellFormed.id_ne_of_mem_erase (wf : spec.WellFormed catalogue) (hn : node ∈ spec.nodes)
    (hm : m ∈ spec.nodes.erase node) : m.id ≠ node.id := by
  have distinct : spec.nodes.Nodup := wf.nodeIds.of_map _
  obtain ⟨ne, hm⟩ := (List.Nodup.mem_erase_iff distinct).1 hm
  exact fun same => ne (List.inj_on_of_nodup_map wf.nodeIds hm hn same)

/-- What feeds a remaining node after the removal are the connections from elsewhere. -/
theorem WellFormed.feeds_removeNode (wf : spec.WellFormed catalogue) (other : m.id ≠ node.id) (pin : String) :
    (PinResolver.new (spec.removeNode node) catalogue).feeds (spec.removeNode node).connections m.id pin = true ↔
      ∃ c ∈ spec.connections, c.destination = .node m.id ∧ c.destinationPin = pin ∧ c.source ≠ .node node.id := by
  rw [← PinResolver.contains_fedPins, List.contains_iff_mem, mem_fedPins_of_wired wf.wired_removeNode]
  constructor
  · rintro ⟨c, hc, destination, atPin⟩
    obtain ⟨hc, hs, -⟩ := mem_connections_removeNode.1 hc
    exact ⟨c, hc, destination, atPin, hs⟩
  · rintro ⟨c, hc, destination, atPin, hs⟩
    have hd : c.destination ≠ .node node.id := by
      rw [destination]
      exact fun same => other (Endpoint.node.inj same)
    exact ⟨c, mem_connections_removeNode.2 ⟨hc, hs, hd⟩, destination, atPin⟩

/-- An input without a value of its own depends on the removed node exactly if nothing else feeds it. -/
theorem WellFormed.dependsOn_iff (wf : spec.WellFormed catalogue) (hm : m ∈ spec.nodes) (other : m.id ≠ node.id)
    {signature : NodeSignature} (known : m.HasSignature catalogue signature) {pin : InputPin}
    (hp : pin ∈ signature.inputs) :
    spec.DependsOn m pin node ↔
      pin.required = true ∧
        ¬(PinResolver.new (spec.removeNode node) catalogue).feeds (spec.removeNode node).connections m.id pin.name ∧
          pin.name ∉ m.defaults.names ∧ pin.default = none := by
  rw [wf.feeds_removeNode other]
  constructor
  · intro h
    refine ⟨h.required, ?_, h.unset, h.undocumented⟩
    rintro ⟨c, hc, destination, atPin, elsewhere⟩
    exact elsewhere (h.only c hc destination atPin)
  · rintro ⟨required, unfed, unset, undocumented⟩
    have only : ∀ c ∈ spec.connections, c.destination = .node m.id → c.destinationPin = pin.name →
        c.source = .node node.id := by
      intro c hc destination atPin
      by_contra elsewhere
      exact unfed ⟨c, hc, destination, atPin, elsewhere⟩
    -- nothing was missing before the removal, so that there was a connection
    have fed : ∃ c ∈ spec.connections, c.destination = .node m.id ∧ c.destinationPin = pin.name := by
      rcases wf.requiredInputs m hm signature known pin hp required with fed | set | documented
      · exact fed
      · exact absurd set unset
      · exact absurd undocumented documented
    exact ⟨required, unset, undocumented, fed, only⟩

theorem WellFormed.unfedInputs_removeNode (wf : spec.WellFormed catalogue) (hm : m ∈ spec.nodes)
    (other : m.id ≠ node.id) :
    (spec.removeNode node).unfedInputs catalogue m = spec.dependentInputs catalogue node m := by
  unfold unfedInputs Node.unfedInputs dependentInputs
  cases known : catalogue.signature? m with
  | none => rfl
  | some signature =>
    rw [Catalogue.signature?_eq_some_iff] at known
    refine congrArg _ (List.filter_congr fun pin hp => ?_)
    rw [Bool.eq_iff_iff, decide_eq_true_iff, wf.dependsOn_iff hm other known hp, ← Table.isSome_get?_iff]
    simp [and_assoc]

/-! ### Diagnoses -/

/-- After the removal, nothing is reported but the inputs that depend on the removed node. -/
theorem WellFormed.violations_removeNode (wf : spec.WellFormed catalogue) (hn : node ∈ spec.nodes) :
    (spec.removeNode node).violations catalogue =
      (spec.nodes.erase node).flatMap (spec.dependentInputs catalogue node) := by
  have subset : ∀ m ∈ (spec.removeNode node).nodes, m ∈ spec.nodes := fun _ => List.mem_of_mem_erase
  have ids : ((spec.removeNode node).nodes.map Node.id).Nodup := wf.nodeIds.sublist ((List.erase_sublist).map _)
  have asset : (spec.removeNode node).stageViolations catalogue 0 = [] := assetTypeViolations_eq_nil_iff.2 wf.assetType
  have interfaces : (spec.removeNode node).stageViolations catalogue 1 = [] :=
    interfaceViolations_eq_nil_iff.2 wf.interfaces
  have vars : (spec.removeNode node).stageViolations catalogue 2 = [] :=
    variableViolations_eq_nil_iff.2 ⟨wf.variableNames, wf.variableTypes⟩
  have nodes : (spec.removeNode node).stageViolations catalogue 3 = [] :=
    nodeViolations_eq_nil_iff.2 ⟨ids, fun m hm => wf.nodeKinds m (subset m hm)⟩
  have connections : (spec.removeNode node).stageViolations catalogue 4 = [] :=
    List.flatMap_eq_nil_iff.2 fun c hc => (connectionViolations_eq_nil_iff_wired ids).2 (wf.wired_removeNode c hc)
  have defaults : (spec.removeNode node).stageViolations catalogue 5 = [] :=
    defaultViolations_eq_nil_iff.2 fun m hm => wf.defaults m (subset m hm)
  have interfacePins : (spec.removeNode node).stageViolations catalogue 7 = [] :=
    interfacePinViolations_eq_nil_iff.2 wf.interfacePins
  have inputs : (spec.removeNode node).stageViolations catalogue 6 =
      (spec.nodes.erase node).flatMap (spec.dependentInputs catalogue node) := by
    rw [stageViolations_six_eq_flatMap]
    exact List.flatMap_congr fun m hm => wf.unfedInputs_removeNode (subset m hm) (wf.id_ne_of_mem_erase hn hm)
  rw [violations_eq_append, asset, interfaces, vars, nodes, connections, defaults, inputs, interfacePins]
  simp only [List.nil_append, List.append_nil]

theorem dependentInputs_eq_nil_iff :
    spec.dependentInputs catalogue node m = [] ↔
      ∀ signature, m.HasSignature catalogue signature → ∀ pin ∈ signature.inputs, ¬spec.DependsOn m pin node := by
  simp only [dependentInputs, ← Catalogue.signature?_eq_some_iff]
  cases catalogue.signature? m with
  | none => simp
  | some signature => simp

/-- A node is removed from a graph with which nothing is wrong, together with its connections.  Then exactly those
required inputs of the remaining nodes are reported that have no value of their own and were connected to nothing but
the removed node, in the order of the nodes and of their inputs.  In particular, nothing is wrong with the rest if the
node has fed no such input. -/
theorem validate_removeNode (spec : Specification) (catalogue : Catalogue) (accepted : spec.validate catalogue = [])
    (node : Node) (hn : node ∈ spec.nodes) :
    (spec.removeNode node).validate catalogue =
      ((spec.nodes.erase node).flatMap (spec.dependentInputs catalogue node)).map Violation.toDiagnostic ∧
    ((spec.removeNode node).validate catalogue = [] ↔
      ∀ m ∈ spec.nodes.erase node, ∀ signature, m.HasSignature catalogue signature →
        ∀ pin ∈ signature.inputs, ¬spec.DependsOn m pin node) := by
  have wf : spec.WellFormed catalogue := violations_eq_nil_iff.1 (List.map_eq_nil_iff.1 accepted)
  refine ⟨by rw [validate, wf.violations_removeNode hn], ?_⟩
  rw [validate, wf.violations_removeNode hn, List.map_eq_nil_iff, List.flatMap_eq_nil_iff]
  exact forall₂_congr fun m _ => dependentInputs_eq_nil_iff

/-- Without the node that reads the cutoff frequency, the filter of the tone lacks it.  Nothing depends on the node that
writes it. -/
theorem validate_removeNode_tone :
    tone.validate .builtIn = [] ∧
    (∃ node ∈ tone.nodes, node.id = "get" ∧ (tone.removeNode node).validate .builtIn =
      [(Violation.unfedInput "filter" "Biquad Filter" "Cutoff Frequency").toDiagnostic]) ∧
    ∃ node ∈ tone.nodes, node.id = "set" ∧ (tone.removeNode node).validate .builtIn = [] := by
  have accepted : tone.validate .builtIn = [] := by
    rw [validate, violations_eq_nil_iff.2 wellFormed_tone, List.map_nil]
  have get : Node.ofKind "get" (.read "Cutoff") ∈ tone.nodes := by decide
  have set : Node.ofKind "set" (.write "Cutoff") ∈ tone.nodes := by decide
  refine ⟨accepted, ⟨_, get, rfl, ?_⟩, ⟨_, set, rfl, ?_⟩⟩
  · rw [(validate_removeNode tone .builtIn accepted _ get).1]
    decide +kernel
  · rw [(validate_removeNode tone .builtIn accepted _ set).1]
    decide +kernel

end Specification

end AudioGraph
