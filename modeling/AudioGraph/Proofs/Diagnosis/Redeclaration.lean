import AudioGraph.Proofs.Diagnosis.AddedConnection
import AudioGraph.Proofs.Diagnosis.Skeleton

/-!
# What a further declaration of a name changes

The first declaration of a name wins.  What is declared behind it under the same name is never found, so that the pins
of the graph stay as they are, and with them all that has been reported.  Yet a node and a variable are checked where
they stand, and a second one is reported for itself.  Graph inputs and outputs are only ever looked up.

* (pins) Another node, variable, input or output of a declared name leaves the pins alone (`samePins_addNode` and the
  like), and so the resolver gives the same answers (`SamePins.agree`).
* (stages) Another node is reported in three stages, behind the nodes that were there, and another variable in one
  (`violations_addNode`, `violations_addVariable`).
-/

namespace AudioGraph

/-- Two resolvers know the same endpoints, and find the same types. -/
structure PinResolver.Agree (pins other : PinResolver) : Prop where
  contains : ∀ endpoint, pins.contains endpoint = other.contains endpoint
  outputType? : ∀ endpoint pin, pins.outputType? endpoint pin = other.outputType? endpoint pin
  inputType? : ∀ endpoint pin, pins.inputType? endpoint pin = other.inputType? endpoint pin

namespace Specification

theorem SamePins.agree {spec other : Specification} (same : spec.SamePins other) (catalogue : Catalogue) :
    (PinResolver.new spec catalogue).Agree (PinResolver.new other catalogue) :=
  ⟨PinResolver.contains_congr same, PinResolver.outputType?_congr same, PinResolver.inputType?_congr same⟩

variable {spec : Specification} {catalogue : Catalogue} {node : Node} {v : Variable} {input : GraphInput}
  {output : GraphOutput}

/-! ### Pins -/

theorem samePins_addNode (declared : spec.Declares (.node node.id)) : (spec.addNode node).SamePins spec :=
  ⟨fun _ => rfl, fun _ => rfl, fun _ => rfl, fun id => congrArg _ (find?_concat_of_named declared id)⟩

theorem samePins_addVariable (declared : ∃ u ∈ spec.vars, u.name = v.name) : (spec.addVariable v).SamePins spec :=
  ⟨fun _ => rfl, fun _ => rfl, fun name => congrArg _ (find?_concat_of_named declared name), fun _ => rfl⟩

theorem samePins_addInput (declared : ∃ pin ∈ spec.inputs, pin.name = input.name) :
    (spec.addInput input).SamePins spec :=
  ⟨fun name => congrArg _ (find?_concat_of_named declared name), fun _ => rfl, fun _ => rfl, fun _ => rfl⟩

theorem samePins_addOutput (declared : ∃ pin ∈ spec.outputs, pin.name = output.name) :
    (spec.addOutput output).SamePins spec :=
  ⟨fun _ => rfl, fun name => congrArg _ (find?_concat_of_named declared name), fun _ => rfl, fun _ => rfl⟩

/-! ### Nodes -/

theorem nodeViolations_addNode (declared : spec.Declares (.node node.id)) :
    (spec.addNode node).stageViolations catalogue 3 =
      spec.stageViolations catalogue 3 ++
        .duplicateNode node.id :: if spec.KindKnown catalogue node.kind then [] else [node.unknown] := by
  have marked : markRepeats Node.id (spec.nodes ++ [node]) = markRepeats Node.id spec.nodes ++ [(node, true)] :=
    markRepeats_concat_of_named declared
  have kinds : (spec.addNode node).nodeKindViolations catalogue = spec.nodeKindViolations catalogue :=
    funext (nodeKindViolations_congr (samePins_addNode declared))
  rw [stageViolations, stageViolations, nodeViolations, nodeViolations, kinds, addNode, marked, List.flatMap_append,
    List.flatMap_singleton, ← nodeKindViolations_eq]
  rfl

theorem defaultViolations_addNode :
    (spec.addNode node).stageViolations catalogue 5 =
      spec.stageViolations catalogue 5 ++ node.unknownDefaults catalogue := by
  rw [stageViolations, stageViolations, defaultViolations_eq_flatMap, defaultViolations_eq_flatMap, addNode,
    List.flatMap_append, List.flatMap_singleton]

theorem requiredInputViolations_addNode (declared : spec.Declares (.node node.id)) :
    (spec.addNode node).stageViolations catalogue 6 =
      spec.stageViolations catalogue 6 ++
        node.unfedInputs catalogue ((PinResolver.new spec catalogue).feeds spec.connections node.id) := by
  have fed : (PinResolver.new (spec.addNode node) catalogue).fedPins (spec.addNode node).connections =
      (PinResolver.new spec catalogue).fedPins spec.connections :=
    PinResolver.fedPins_congr (samePins_addNode declared) spec.connections
  rw [stageViolations, stageViolations, fed, requiredInputViolations_eq_flatMap, requiredInputViolations_eq_flatMap,
    addNode, List.flatMap_append, List.flatMap_singleton]

theorem violations_addNode (declared : spec.Declares (.node node.id)) :
    (spec.addNode node).violations catalogue =
      spec.stageViolations catalogue 0 ++ spec.stageViolations catalogue 1 ++ spec.stageViolations catalogue 2 ++
        (spec.stageViolations catalogue 3 ++
          .duplicateNode node.id :: if spec.KindKnown catalogue node.kind then [] else [node.unknown]) ++
        spec.stageViolations catalogue 4 ++
        (spec.stageViolations catalogue 5 ++ node.unknownDefaults catalogue) ++
        (spec.stageViolations catalogue 6 ++
          node.unfedInputs catalogue ((PinResolver.new spec catalogue).feeds spec.connections node.id)) ++
        spec.stageViolations catalogue 7 := by
  have kept (n : Nat) (lists : (spec.addNode node).SameLists spec n) :
      (spec.addNode node).stageViolations catalogue n = spec.stageViolations catalogue n :=
    stageViolations_congr (samePins_addNode declared) lists
  rw [violations_eq_append, kept 0 rfl, kept 1 rfl, kept 2 rfl, nodeViolations_addNode declared, kept 4 rfl,
    defaultViolations_addNode, requiredInputViolations_addNode declared, kept 7 rfl]

/-! ### Variables -/

theorem variableViolations_addVariable (declared : ∃ u ∈ spec.vars, u.name = v.name) :
    (spec.addVariable v).stageViolations catalogue 2 =
      spec.stageViolations catalogue 2 ++
        .duplicateVariable v.name ::
          if catalogue.isPinType v.pinType then [] else [.unknownVariableType v.name v.pinType] := by
  have marked : markRepeats Variable.name (spec.vars ++ [v]) = markRepeats Variable.name spec.vars ++ [(v, true)] :=
    markRepeats_concat_of_named declared
  rw [stageViolations, stageViolations, variableViolations, variableViolations, addVariable, marked,
    List.flatMap_append, List.flatMap_singleton]
  rfl

theorem violations_addVariable (declared : ∃ u ∈ spec.vars, u.name = v.name) :
    (spec.addVariable v).violations catalogue =
      spec.stageViolations catalogue 0 ++ spec.stageViolations catalogue 1 ++
        (spec.stageViolations catalogue 2 ++
          .duplicateVariable v.name ::
            if catalogue.isPinType v.pinType then [] else [.unknownVariableType v.name v.pinType]) ++
        spec.stageViolations catalogue 3 ++ spec.stageViolations catalogue 4 ++ spec.stageViolations catalogue 5 ++
        spec.stageViolations catalogue 6 ++ spec.stageViolations catalogue 7 := by
  have kept (n : Nat) (lists : (spec.addVariable v).SameLists spec n) :
      (spec.addVariable v).stageViolations catalogue n = spec.stageViolations catalogue n :=
    stageViolations_congr (samePins_addVariable declared) lists
  rw [violations_eq_append, kept 0 rfl, kept 1 rfl, variableViolations_addVariable declared, kept 3 rfl, kept 4 rfl,
    kept 5 rfl, kept 6 ⟨rfl, rfl⟩, kept 7 rfl]

/-! ### Boundary -/

/-- Of the boundary nothing counts but its pins. -/
theorem violations_of_boundary {inputs : List GraphInput} {outputs : List GraphOutput}
    (same : SamePins { spec with inputs := inputs, outputs := outputs } spec) :
    violations { spec with inputs := inputs, outputs := outputs } catalogue = spec.violations catalogue := by
  have kept (n : Nat) (lists : SameLists { spec with inputs := inputs, outputs := outputs } spec n) :
      stageViolations { spec with inputs := inputs, outputs := outputs } catalogue n =
        spec.stageViolations catalogue n :=
    stageViolations_congr same lists
  rw [violations_eq_append, kept 0 rfl, kept 1 rfl, kept 2 rfl, kept 3 rfl, kept 4 rfl, kept 5 rfl,
    kept 6 ⟨rfl, rfl⟩, kept 7 rfl]
  rfl

/-! ### All declarations -/

/-- The first declaration of a name wins: what is declared behind it changes no pin and no report, and is itself
reported once for its name.  A node is also reported if it is nothing known, for the literal values that are for none of
its inputs, and for the required inputs that have no value and that no connection feeds.  A variable is also reported
for a pin type that nobody knows, and an input or an output not even for its name. -/
theorem validate_redeclared (spec : Specification) (catalogue : Catalogue) :
    (∀ node : Node, spec.Declares (.node node.id) →
      (PinResolver.new (spec.addNode node) catalogue).Agree (PinResolver.new spec catalogue) ∧
      ∃ before between unfed after : List Violation,
        spec.violations catalogue = before ++ between ++ unfed ++ after ∧
        (∀ w ∈ before, w.stage < 4) ∧ (∀ w ∈ between, 4 ≤ w.stage ∧ w.stage < 6) ∧
        (∀ w ∈ unfed, 6 ≤ w.stage ∧ w.stage < 7) ∧ (∀ w ∈ after, 7 ≤ w.stage) ∧
        (spec.addNode node).validate catalogue =
          (before ++
            (Violation.duplicateNode node.id ::
              if spec.KindKnown catalogue node.kind then [] else [node.unknown]) ++
            between ++ node.unknownDefaults catalogue ++
            unfed ++ node.unfedInputs catalogue ((PinResolver.new spec catalogue).feeds spec.connections node.id) ++
            after).map Violation.toDiagnostic) ∧
    (∀ v : Variable, (∃ u ∈ spec.vars, u.name = v.name) →
      (PinResolver.new (spec.addVariable v) catalogue).Agree (PinResolver.new spec catalogue) ∧
      ∃ before after : List Violation, spec.violations catalogue = before ++ after ∧
        (∀ w ∈ before, w.stage < 3) ∧ (∀ w ∈ after, 3 ≤ w.stage) ∧
        (spec.addVariable v).validate catalogue =
          (before ++
            (Violation.duplicateVariable v.name ::
              if catalogue.isPinType v.pinType then [] else [Violation.unknownVariableType v.name v.pinType]) ++
            after).map Violation.toDiagnostic) ∧
    (∀ input : GraphInput, (∃ pin ∈ spec.inputs, pin.name = input.name) →
      (PinResolver.new (spec.addInput input) catalogue).Agree (PinResolver.new spec catalogue) ∧
      (spec.addInput input).validate catalogue = spec.validate catalogue) ∧
    ∀ output : GraphOutput, (∃ pin ∈ spec.outputs, pin.name = output.name) →
      (PinResolver.new (spec.addOutput output) catalogue).Agree (PinResolver.new spec catalogue) ∧
      (spec.addOutput output).validate catalogue = spec.validate catalogue := by
  have stage {n : Nat} {w : Violation} (h : w ∈ spec.stageViolations catalogue n) : w.stage = n :=
    stage_of_mem_stageViolations h
  refine ⟨fun node declared => ⟨(samePins_addNode declared).agree catalogue, ?_⟩,
    fun v declared => ⟨(samePins_addVariable declared).agree catalogue, ?_⟩,
    fun input declared => ⟨(samePins_addInput declared).agree catalogue, ?_⟩,
    fun output declared => ⟨(samePins_addOutput declared).agree catalogue, ?_⟩⟩
  · refine ⟨spec.stageViolations catalogue 0 ++ spec.stageViolations catalogue 1 ++ spec.stageViolations catalogue 2 ++
        spec.stageViolations catalogue 3, spec.stageViolations catalogue 4 ++ spec.stageViolations catalogue 5,
      spec.stageViolations catalogue 6, spec.stageViolations catalogue 7, ?_, fun w hw => ?_, fun w hw => ?_,
      fun w hw => ?_, fun w hw => ?_, ?_⟩
    · simp only [violations_eq_append, List.append_assoc]
    · simp only [List.mem_append] at hw
      obtain ((h | h) | h) | h := hw <;> simp [stage h]
    · obtain h | h := List.mem_append.1 hw <;> simp [stage h]
    · simp [stage hw]
    · simp [stage hw]
    · simp only [validate, violations_addNode declared, List.append_assoc]
  · refine ⟨spec.stageViolations catalogue 0 ++ spec.stageViolations catalogue 1 ++ spec.stageViolations catalogue 2,
      spec.stageViolations catalogue 3 ++ spec.stageViolations catalogue 4 ++ spec.stageViolations catalogue 5 ++
        spec.stageViolations catalogue 6 ++ spec.stageViolations catalogue 7, ?_, fun w hw => ?_, fun w hw => ?_, ?_⟩
    · simp only [violations_eq_append, List.append_assoc]
    · simp only [List.mem_append] at hw
      obtain (h | h) | h := hw <;> simp [stage h]
    · simp only [List.mem_append] at hw
      obtain (((h | h) | h) | h) | h := hw <;> simp [stage h]
    · simp only [validate, violations_addVariable declared, List.append_assoc]
  · rw [validate, validate]
    exact congrArg _ (violations_of_boundary (samePins_addInput declared))
  · rw [validate, validate]
    exact congrArg _ (violations_of_boundary (samePins_addOutput declared))

private theorem violations_haunted : haunted.violations .builtIn = [.danglingSource (.node "ghost")] := by
  have fine : tone.violations .builtIn = [] := violations_eq_nil_iff.2 wellFormed_tone
  simp only [violations_eq_append, List.append_eq_nil_iff] at fine
  obtain ⟨⟨⟨⟨⟨⟨⟨s0, s1⟩, s2⟩, s3⟩, s4⟩, s5⟩, s6⟩, s7⟩ := fine
  rw [haunted, violations_addConnection, s0, s1, s2, s3, s4, s5, s6, s7, PinResolver.connectionViolations_eq,
    PinResolver.containsBoth, PinResolver.endViolations, PinResolver.contains_node, PinResolver.contains_node]
  decide

-- the index of the nodes does not evaluate in proofs, so that the ends of connections are looked up in the list
private theorem feeds_eq_any (spec : Specification) (catalogue : Catalogue) :
    (PinResolver.new spec catalogue).feeds = fun connections id pin =>
      connections.any fun c =>
        (c.source.nodeId?.all fun id => (spec.findNode? id).isSome) &&
          (c.destination.nodeId?.all fun id => (spec.findNode? id).isSome) &&
          c.destination == .node id && c.destinationPin == pin := by
  have known (endpoint : Endpoint) : (PinResolver.new spec catalogue).contains endpoint =
      endpoint.nodeId?.all fun id => (spec.findNode? id).isSome := by
    cases endpoint with
    | boundary => rfl
    | node id => exact PinResolver.contains_node id
  funext connections id pin
  simp only [PinResolver.feeds, PinResolver.containsBoth, known]

/-- A second filter in the haunted tone is fed at two inputs, and has neither a bandwidth nor a tint.  A second variable
is of no known type, and a second distance does not make a trigger of the first one. -/
theorem validate_redeclared_haunted :
    haunted.Declares (.node "filter") ∧
    (haunted.addNode ((Node.ofKind "filter" (.external "Biquad Filter")).withDefault "Tint" .null)).validate .builtIn =
      [Violation.duplicateNode "filter", .danglingSource (.node "ghost"),
        .unknownDefault "filter" "Biquad Filter" "Tint",
        .unfedInput "filter" "Biquad Filter" "Bandwidth"].map Violation.toDiagnostic ∧
    (haunted.addVariable ⟨"Cutoff", "Colour", none⟩).validate .builtIn =
      [Violation.duplicateVariable "Cutoff", .unknownVariableType "Cutoff" "Colour",
        .danglingSource (.node "ghost")].map Violation.toDiagnostic ∧
    (PinResolver.new (haunted.addInput ⟨"Distance", "Trigger", none⟩) .builtIn).outputType? .boundary "Distance" =
      some "Float" ∧
    (haunted.addInput ⟨"Distance", "Trigger", none⟩).validate .builtIn = haunted.validate .builtIn ∧
    (haunted.addOutput ⟨"Out", "Float"⟩).validate .builtIn = haunted.validate .builtIn := by
  have node : haunted.Declares (.node "filter") := ⟨_, List.mem_cons_of_mem _ List.mem_cons_self, rfl⟩
  obtain ⟨nodes, vars, inputs, outputs⟩ := validate_redeclared haunted .builtIn
  obtain ⟨agree, same⟩ := inputs ⟨"Distance", "Trigger", none⟩ ⟨_, List.mem_cons_self, rfl⟩
  refine ⟨node, ?_, ?_, (agree.outputType? .boundary "Distance").trans rfl, same,
    (outputs _ ⟨_, List.mem_cons_self, rfl⟩).2⟩
  · obtain ⟨-, before, between, unfed, after, cut, hb, hm, hu, ha, more⟩ :=
      nodes ((Node.ofKind "filter" (.external "Biquad Filter")).withDefault "Tint" .null) node
    -- there is nothing but the report of the connection from nowhere, which stands in the fifth stage
    have other {part : List Violation} (off : ∀ w ∈ part, w ∈ haunted.violations .builtIn ∧ w.stage ≠ 4) :
        part = [] := by
      refine List.eq_nil_iff_forall_not_mem.2 fun w hw => (off w hw).2 ?_
      have ghost := (off w hw).1
      rw [violations_haunted, List.mem_singleton] at ghost
      rw [ghost]
      rfl
    obtain rfl : before = [] := other fun w hw => ⟨by simp [cut, hw], by have := hb w hw; omega⟩
    obtain rfl : unfed = [] := other fun w hw => ⟨by simp [cut, hw], by have := hu w hw; omega⟩
    obtain rfl : after = [] := other fun w hw => ⟨by simp [cut, hw], by have := ha w hw; omega⟩
    rw [violations_haunted, List.nil_append, List.append_nil, List.append_nil] at cut
    rw [more, ← cut, feeds_eq_any]
    decide +kernel
  · obtain ⟨-, before, after, cut, hb, ha, more⟩ := vars ⟨"Cutoff", "Colour", none⟩ ⟨_, List.mem_cons_self, rfl⟩
    obtain ⟨early, late⟩ := Violation.eq_filter_of_stage (violations_haunted.symm.trans cut) hb ha
    rw [more, early, late]
    decide +kernel

end Specification

end AudioGraph
