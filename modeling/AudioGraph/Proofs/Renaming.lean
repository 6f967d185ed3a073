import Mathlib.Data.List.Forall2
import Mathlib.Logic.Equiv.Basic
import AudioGraph.Proofs.Diagnosis.WellFormed
import AudioGraph.Script.Compile
import AudioGraph.Specification.Edit

/-!
# Renaming nodes and variables

The ids of nodes and the names of variables carry no meaning: no name is special, and nothing is sorted by name.  A
renaming that keeps different names different changes nothing but the names, however faulty a specification is: its
diagnoses and its script are those of the specification, renamed.

Names that are not mentioned do not matter, so that a renaming need only keep apart the names that are
(`Renaming.Separates`).  It may give a node the name that documents have for the boundary.

* (look-ups) A search under the new name finds what the search under the old name has found, renamed
  (`findNode?_renamed`, `findVariable?_renamed`), and pins keep their types (`outputType?_renamed`,
  `inputType?_renamed`).
* (diagnoses) Each check reports the renamed violations (`violations_renamed`).
* (scripts) A script is renamed operation by operation (`script_renamed`).
-/

namespace AudioGraph

/-- New names for nodes and for variables. -/
structure Renaming where
  node : String → String
  var : String → String

/-! ### Renamed parts -/

/-- The endpoint under its new name.  The boundary has no name to change. -/
def Endpoint.renamed (r : Renaming) : Endpoint → Endpoint
  | boundary => boundary
  | node id => node (r.node id)

theorem Endpoint.nodeId?_renamed (r : Renaming) (endpoint : Endpoint) :
    (endpoint.renamed r).nodeId? = endpoint.nodeId?.map r.node := by
  cases endpoint <;> rfl

/-- The connection between the endpoints under their new names. -/
def Connection.renamed (r : Renaming) (c : Connection) : Connection :=
  { c with source := c.source.renamed r, destination := c.destination.renamed r }

@[simp] theorem Connection.source_renamed (r : Renaming) (c : Connection) :
    (c.renamed r).source = c.source.renamed r := rfl

@[simp] theorem Connection.destination_renamed (r : Renaming) (c : Connection) :
    (c.renamed r).destination = c.destination.renamed r := rfl

@[simp] theorem Connection.sourcePin_renamed (r : Renaming) (c : Connection) :
    (c.renamed r).sourcePin = c.sourcePin := rfl

@[simp] theorem Connection.destinationPin_renamed (r : Renaming) (c : Connection) :
    (c.renamed r).destinationPin = c.destinationPin := rfl

/-- The variable under its new name. -/
def Variable.renamed (r : Renaming) (v : Variable) : Variable := { v with name := r.var v.name }

/-- The kind with the new name of the variable. -/
def NodeKind.renamed (r : Renaming) : NodeKind → NodeKind
  | external typeName => external typeName
  | read name => read (r.var name)
  | delayedRead name => delayedRead (r.var name)
  | write name => write (r.var name)

/-- The node under its new id. -/
def Node.renamed (r : Renaming) (node : Node) : Node :=
  { node with id := r.node node.id, kind := node.kind.renamed r }

/-- The specification under new names. -/
def Specification.renamed (r : Renaming) (spec : Specification) : Specification :=
  { spec with
    vars := spec.vars.map (Variable.renamed r)
    nodes := spec.nodes.map (Node.renamed r)
    connections := spec.connections.map (Connection.renamed r) }

/-- The violation under new names. -/
def Violation.renamed (r : Renaming) : Violation → Violation
  | duplicateVariable name => duplicateVariable (r.var name)
  | unknownVariableType name pinType => unknownVariableType (r.var name) pinType
  | duplicateNode id => duplicateNode (r.node id)
  | undeclaredVariable node name => undeclaredVariable (r.node node) (r.var name)
  | unknownNodeType node typeName => unknownNodeType (r.node node) typeName
  | danglingSource endpoint => danglingSource (endpoint.renamed r)
  | danglingDestination endpoint => danglingDestination (endpoint.renamed r)
  | unknownOutput endpoint pin => unknownOutput (endpoint.renamed r) pin
  | unknownInput endpoint pin => unknownInput (endpoint.renamed r) pin
  | typeMismatch c sourceType destinationType targets => typeMismatch (c.renamed r) sourceType destinationType targets
  | unknownDefault node typeName pin => unknownDefault (r.node node) typeName pin
  | unfedInput node typeName pin => unfedInput (r.node node) typeName pin
  | violation => violation

/-- The operation under new names. -/
def Operation.renamed (r : Renaming) : Operation → Operation
  | declareVariable name pinType default => declareVariable (r.var name) pinType default
  | placeNode id typeName placement => placeNode (r.node id) typeName placement
  | placeVariableRead id name delayed => placeVariableRead (r.node id) (r.var name) delayed
  | placeVariableWrite id name => placeVariableWrite (r.node id) (r.var name)
  | setDefault node input value => setDefault (r.node node) input value
  | connect c => connect (c.renamed r)
  | op => op

/-- A diagnostic reports the problem of another one, about the node under its new name. -/
structure Diagnostic.Renames (r : Renaming) (renamed original : Diagnostic) : Prop where
  code : renamed.code = original.code
  phase : renamed.phase = original.phase
  kind : renamed.kind = original.kind
  node : renamed.node = original.node.map r.node

/-! ### Names that are kept apart -/

namespace Specification

/-- The ids of the nodes and of the ends of connections. -/
def mentionedNodes (spec : Specification) : List String :=
  spec.nodes.map Node.id ++ spec.connections.flatMap fun c => c.source.nodeId?.toList ++ c.destination.nodeId?.toList

/-- The names of the variables, and of those that nodes read or write. -/
def mentionedVars (spec : Specification) : List String :=
  spec.vars.map Variable.name ++ spec.nodes.flatMap fun node => node.kind.accessed?.toList

end Specification

/-- Different names that a specification mentions have different new names. -/
structure Renaming.Separates (r : Renaming) (spec : Specification) : Prop where
  nodes : ∀ a ∈ spec.mentionedNodes, ∀ b ∈ spec.mentionedNodes, r.node a = r.node b → a = b
  vars : ∀ a ∈ spec.mentionedVars, ∀ b ∈ spec.mentionedVars, r.var a = r.var b → a = b

/-- Injective renamings keep all names apart. -/
theorem Renaming.separates_of_injective {r : Renaming} (nodes : Function.Injective r.node)
    (vars : Function.Injective r.var) (spec : Specification) : r.Separates spec :=
  ⟨fun _ _ _ _ h => nodes h, fun _ _ _ _ h => vars h⟩

namespace Violation

theorem map_renamed_ifNot (r : Renaming) (fine : Bool) (violation : Violation) :
    (ifNot fine violation).map (renamed r) = ifNot fine (violation.renamed r) := by
  cases fine <;> rfl

theorem code_renamed (r : Renaming) (violation : Violation) : (violation.renamed r).code = violation.code := by
  cases violation <;> rfl

theorem kind_renamed (r : Renaming) (violation : Violation) : (violation.renamed r).kind = violation.kind := by
  cases violation <;> rfl

theorem node?_renamed (r : Renaming) (violation : Violation) :
    (violation.renamed r).node? = violation.node?.map r.node := by
  cases violation with
  | unknownOutput endpoint _ => exact endpoint.nodeId?_renamed r
  | unknownInput endpoint _ => exact endpoint.nodeId?_renamed r
  | typeMismatch c _ _ _ => exact c.destination.nodeId?_renamed r
  | _ => rfl

end Violation

theorem Endpoint.renamed_inj {r : Renaming} {a b : Endpoint}
    (apart : ∀ i j, a.nodeId? = some i → b.nodeId? = some j → r.node i = r.node j → i = j) :
    a.renamed r = b.renamed r ↔ a = b := by
  refine ⟨fun h => ?_, congrArg (renamed r)⟩
  cases a with
  | boundary =>
    cases b with
    | boundary => rfl
    | node j => cases h
  | node i =>
    cases b with
    | boundary => cases h
    | node j => exact congrArg node (apart i j rfl rfl (Endpoint.node.inj h))

theorem NodeKind.typeName_renamed (r : Renaming) (kind : NodeKind) : (kind.renamed r).typeName = kind.typeName := by
  cases kind <;> rfl

theorem Catalogue.signature?_renamed (catalogue : Catalogue) (r : Renaming) (node : Node) :
    catalogue.signature? (node.renamed r) = catalogue.signature? node := by
  obtain ⟨id, kind, position, defaults⟩ := node
  cases kind <;> rfl

namespace Node

theorem placement_renamed (r : Renaming) (node : Node) :
    (node.renamed r).placement = node.placement.renamed r := by
  obtain ⟨id, kind, position, defaults⟩ := node
  cases kind <;> rfl

theorem settings_renamed (r : Renaming) (node : Node) :
    (node.renamed r).settings = node.settings.map (Operation.renamed r) := by
  obtain ⟨id, kind, position, defaults⟩ := node
  cases kind with
  | external typeName =>
    show defaults.entries.map _ = (defaults.entries.map _).map (Operation.renamed r)
    rw [List.map_map]
    rfl
  | read name => rfl
  | delayedRead name => rfl
  | write name => rfl

end Node

namespace Specification

variable {spec : Specification} {catalogue : Catalogue} {r : Renaming}

theorem mem_mentionedNodes_of_node {node : Node} (hn : node ∈ spec.nodes) : node.id ∈ spec.mentionedNodes :=
  List.mem_append_left _ (List.mem_map_of_mem hn)

theorem mem_mentionedNodes_of_source {c : Connection} (hc : c ∈ spec.connections) {id : String}
    (h : c.source.nodeId? = some id) : id ∈ spec.mentionedNodes :=
  List.mem_append_right _ (List.mem_flatMap.2 ⟨c, hc, by simp [h]⟩)

theorem mem_mentionedNodes_of_destination {c : Connection} (hc : c ∈ spec.connections) {id : String}
    (h : c.destination.nodeId? = some id) : id ∈ spec.mentionedNodes :=
  List.mem_append_right _ (List.mem_flatMap.2 ⟨c, hc, by simp [h]⟩)

theorem mem_mentionedVars_of_variable {v : Variable} (hv : v ∈ spec.vars) : v.name ∈ spec.mentionedVars :=
  List.mem_append_left _ (List.mem_map_of_mem hv)

theorem mem_mentionedVars_of_accessed? {node : Node} (hn : node ∈ spec.nodes) {name : String}
    (h : node.kind.accessed? = some name) : name ∈ spec.mentionedVars :=
  List.mem_append_right _ (List.mem_flatMap.2 ⟨node, hn, by simp [h]⟩)

/-! ### Look-ups -/

theorem findVariable?_renamed (apart : r.Separates spec) {name : String} (mentioned : name ∈ spec.mentionedVars) :
    (spec.renamed r).findVariable? (r.var name) = (spec.findVariable? name).map (Variable.renamed r) :=
  find?_map_of_renamed Variable.name (Variable.renamed r) r.var (fun _ => rfl) fun v hv =>
    apart.vars v.name (mem_mentionedVars_of_variable hv) name mentioned

theorem findNode?_renamed (apart : r.Separates spec) {id : String} (mentioned : id ∈ spec.mentionedNodes) :
    (spec.renamed r).findNode? (r.node id) = (spec.findNode? id).map (Node.renamed r) :=
  find?_map_of_renamed Node.id (Node.renamed r) r.node (fun _ => rfl) fun node hn =>
    apart.nodes node.id (mem_mentionedNodes_of_node hn) id mentioned

end Specification

namespace PinResolver

open Specification

variable {spec : Specification} {catalogue : Catalogue} {r : Renaming}

private theorem variableType?_renamed (apart : r.Separates spec) {name : String}
    (mentioned : name ∈ spec.mentionedVars) :
    (new (spec.renamed r) catalogue).variableType? (r.var name) = (new spec catalogue).variableType? name := by
  have found := findVariable?_renamed apart mentioned
  rw [variableType?, variableType?, new, new, found, Option.map_map]
  rfl

private theorem nodeOutputType?_renamed (apart : r.Separates spec) {kind : NodeKind}
    (mentioned : ∀ name, kind.accessed? = some name → name ∈ spec.mentionedVars) (pin : String) :
    (new (spec.renamed r) catalogue).nodeOutputType? (kind.renamed r) pin =
      (new spec catalogue).nodeOutputType? kind pin := by
  cases kind with
  | external typeName => rfl
  | read name => exact variableType?_renamed apart (mentioned name rfl)
  | delayedRead name => exact variableType?_renamed apart (mentioned name rfl)
  | write name => rfl

private theorem nodeInputType?_renamed (apart : r.Separates spec) {kind : NodeKind}
    (mentioned : ∀ name, kind.accessed? = some name → name ∈ spec.mentionedVars) (pin : String) :
    (new (spec.renamed r) catalogue).nodeInputType? (kind.renamed r) pin =
      (new spec catalogue).nodeInputType? kind pin := by
  cases kind with
  | external typeName => rfl
  | read name => rfl
  | delayedRead name => rfl
  | write name =>
    have value : (new (spec.renamed r) catalogue).variableType? (r.var name) =
        (new spec catalogue).variableType? name :=
      variableType?_renamed apart (mentioned name rfl)
    exact congrArg (fun pinType? => if pin = valuePin then pinType? else _) value

theorem contains_renamed (apart : r.Separates spec) {endpoint : Endpoint}
    (mentioned : ∀ id, endpoint.nodeId? = some id → id ∈ spec.mentionedNodes) :
    (new (spec.renamed r) catalogue).contains (endpoint.renamed r) = (new spec catalogue).contains endpoint := by
  cases endpoint with
  | boundary => rfl
  | node id =>
    have found := findNode?_renamed apart (mentioned id rfl)
    rw [Endpoint.renamed, contains_node, contains_node, found, Option.isSome_map]

theorem outputType?_renamed (apart : r.Separates spec) {endpoint : Endpoint}
    (mentioned : ∀ id, endpoint.nodeId? = some id → id ∈ spec.mentionedNodes) (pin : String) :
    (new (spec.renamed r) catalogue).outputType? (endpoint.renamed r) pin =
      (new spec catalogue).outputType? endpoint pin := by
  cases endpoint with
  | boundary => rfl
  | node id =>
    rw [Endpoint.renamed, outputType?_node, outputType?_node, findNode?_renamed apart (mentioned id rfl),
      Option.bind_map]
    refine Option.bind_congr fun node hn => ?_
    exact nodeOutputType?_renamed apart (fun name => mem_mentionedVars_of_accessed? (List.mem_of_find?_eq_some hn)) pin

theorem inputType?_renamed (apart : r.Separates spec) {endpoint : Endpoint}
    (mentioned : ∀ id, endpoint.nodeId? = some id → id ∈ spec.mentionedNodes) (pin : String) :
    (new (spec.renamed r) catalogue).inputType? (endpoint.renamed r) pin =
      (new spec catalogue).inputType? endpoint pin := by
  cases endpoint with
  | boundary => rfl
  | node id =>
    rw [Endpoint.renamed, inputType?_node, inputType?_node, findNode?_renamed apart (mentioned id rfl),
      Option.bind_map]
    refine Option.bind_congr fun node hn => ?_
    exact nodeInputType?_renamed apart (fun name => mem_mentionedVars_of_accessed? (List.mem_of_find?_eq_some hn)) pin

/-! ### Diagnoses -/

theorem containsBoth_renamed (apart : r.Separates spec) {c : Connection} (hc : c ∈ spec.connections) :
    (new (spec.renamed r) catalogue).containsBoth (c.renamed r) = (new spec catalogue).containsBoth c := by
  rw [containsBoth, containsBoth, c.source_renamed, c.destination_renamed,
    contains_renamed apart fun _ => mem_mentionedNodes_of_source hc,
    contains_renamed apart fun _ => mem_mentionedNodes_of_destination hc]

theorem connectionViolations_renamed (apart : r.Separates spec) {c : Connection} (hc : c ∈ spec.connections) :
    (new (spec.renamed r) catalogue).connectionViolations (c.renamed r) =
      ((new spec catalogue).connectionViolations c).map (Violation.renamed r) := by
  have source := fun id (h : c.source.nodeId? = some id) => mem_mentionedNodes_of_source hc h
  have destination := fun id (h : c.destination.nodeId? = some id) => mem_mentionedNodes_of_destination hc h
  rw [connectionViolations, connectionViolations, containsBoth_renamed apart hc, c.source_renamed,
    c.destination_renamed, c.sourcePin_renamed, c.destinationPin_renamed, outputType?_renamed apart source,
    inputType?_renamed apart destination, contains_renamed apart source, contains_renamed apart destination]
  split
  · split
    · rw [Violation.map_renamed_ifNot]
      rfl
    · rw [List.map_append, Violation.map_renamed_ifNot, Violation.map_renamed_ifNot]
      rfl
  · rw [List.map_append, Violation.map_renamed_ifNot, Violation.map_renamed_ifNot]
    rfl

/-- The pins of a node are fed alike under its new id. -/
theorem contains_fedPins_renamed (apart : r.Separates spec) {id : String} (mentioned : id ∈ spec.mentionedNodes)
    (pin : String) :
    ((new (spec.renamed r) catalogue).fedPins (spec.renamed r).connections).contains (.node (r.node id), pin) =
      ((new spec catalogue).fedPins spec.connections).contains (.node id, pin) := by
  have connections : (spec.renamed r).connections = spec.connections.map (Connection.renamed r) := rfl
  rw [Bool.eq_iff_iff, List.contains_iff_mem, List.contains_iff_mem, mem_fedPins_iff, mem_fedPins_iff, connections]
  simp only [List.mem_map, exists_exists_and_eq_and]
  refine exists_congr fun c => and_congr_right fun hc => ?_
  have same : c.destination.renamed r = .node (r.node id) ↔ c.destination = .node id := by
    refine Endpoint.renamed_inj (b := .node id) fun i j hi hj => ?_
    obtain rfl := Option.some.inj hj
    exact apart.nodes i (mem_mentionedNodes_of_destination hc hi) id mentioned
  rw [containsBoth_renamed apart hc, c.destination_renamed, same, c.destinationPin_renamed]

end PinResolver

namespace Specification

open PinResolver Violation

variable {spec : Specification} {catalogue : Catalogue} {r : Renaming}

theorem assetTypeViolations_renamed :
    (spec.renamed r).assetTypeViolations catalogue = (spec.assetTypeViolations catalogue).map (Violation.renamed r) :=
  (map_renamed_ifNot r (catalogue.isAssetType spec.assetType) (unknownAssetType spec.assetType _)).symm

theorem interfaceViolations_renamed :
    (spec.renamed r).interfaceViolations catalogue =
      (spec.interfaceViolations catalogue).map (Violation.renamed r) := by
  rw [interfaceViolations, interfaceViolations, List.map_flatMap]
  exact List.flatMap_congr fun name _ => (map_renamed_ifNot r _ (unknownInterface name _)).symm

theorem interfacePinViolations_renamed :
    (spec.renamed r).interfacePinViolations catalogue =
      (spec.interfacePinViolations catalogue).map (Violation.renamed r) := by
  rw [interfacePinViolations, interfacePinViolations, List.map_flatMap]
  refine List.flatMap_congr fun name _ => ?_
  cases catalogue.interface? name with
  | none => rfl
  | some i =>
    rw [List.map_append, List.map_flatMap, List.map_flatMap]
    exact congrArg₂ _ (List.flatMap_congr fun pin _ => (map_renamed_ifNot r _ (missingInput name pin.name)).symm)
      (List.flatMap_congr fun pin _ => (map_renamed_ifNot r _ (missingOutput name pin.name)).symm)

theorem variableViolations_renamed (apart : r.Separates spec) :
    (spec.renamed r).variableViolations catalogue =
      (spec.variableViolations catalogue).map (Violation.renamed r) := by
  have marks : markRepeats Variable.name (spec.vars.map (Variable.renamed r)) =
      (markRepeats Variable.name spec.vars).map fun m => (m.1.renamed r, m.2) := by
    refine markRepeats_map_of_renamed Variable.name (Variable.renamed r) r.var (fun _ => rfl) fun a ha b hb => ?_
    exact apart.vars a (List.mem_append_left _ ha) b (List.mem_append_left _ hb)
  rw [variableViolations, variableViolations, Specification.renamed, marks]
  refine flatMap_map_of_renamed _ fun m _ => ?_
  rw [List.map_append, map_renamed_ifNot, map_renamed_ifNot]
  rfl

theorem nodeKindViolations_renamed (apart : r.Separates spec) {node : Node} (hn : node ∈ spec.nodes) :
    (spec.renamed r).nodeKindViolations catalogue (node.renamed r) =
      (spec.nodeKindViolations catalogue node).map (Violation.renamed r) := by
  have mentioned := fun name (h : node.kind.accessed? = some name) => mem_mentionedVars_of_accessed? hn h
  obtain ⟨id, kind, position, defaults⟩ := node
  have undeclared {name : String} (h : kind.accessed? = some name) :
      ifNot ((spec.renamed r).findVariable? (r.var name)).isSome (undeclaredVariable (r.node id) (r.var name)) =
        (ifNot (spec.findVariable? name).isSome (undeclaredVariable id name)).map (Violation.renamed r) := by
    rw [findVariable?_renamed apart (mentioned name h), Option.isSome_map, map_renamed_ifNot]
    rfl
  cases kind with
  | external typeName =>
    exact (map_renamed_ifNot r (catalogue.nodeType? typeName).isSome (unknownNodeType id typeName)).symm
  | read name => exact undeclared rfl
  | delayedRead name => exact undeclared rfl
  | write name => exact undeclared rfl

theorem nodeViolations_renamed (apart : r.Separates spec) :
    (spec.renamed r).nodeViolations catalogue = (spec.nodeViolations catalogue).map (Violation.renamed r) := by
  have marks : markRepeats Node.id (spec.nodes.map (Node.renamed r)) =
      (markRepeats Node.id spec.nodes).map fun m => (m.1.renamed r, m.2) := by
    refine markRepeats_map_of_renamed Node.id (Node.renamed r) r.node (fun _ => rfl) fun a ha b hb => ?_
    exact apart.nodes a (List.mem_append_left _ ha) b (List.mem_append_left _ hb)
  rw [nodeViolations, nodeViolations]
  conv => lhs; arg 2; rw [Specification.renamed, marks]
  refine flatMap_map_of_renamed _ fun m hm => ?_
  have hn : m.1 ∈ spec.nodes := map_fst_markRepeatsFrom Node.id [] spec.nodes ▸ List.mem_map_of_mem hm
  rw [List.map_append, map_renamed_ifNot, ← nodeKindViolations_renamed apart hn]
  rfl

theorem defaultViolations_renamed :
    (spec.renamed r).defaultViolations catalogue = (spec.defaultViolations catalogue).map (Violation.renamed r) := by
  rw [defaultViolations, defaultViolations, Specification.renamed]
  refine flatMap_map_of_renamed _ fun node _ => ?_
  rw [catalogue.signature?_renamed]
  cases catalogue.signature? node with
  | none => rfl
  | some signature =>
    rw [List.map_flatMap]
    refine List.flatMap_congr fun pin _ => ?_
    rw [map_renamed_ifNot, Node.renamed, NodeKind.typeName_renamed]
    rfl

theorem requiredInputViolations_renamed {fed fed' : List (Endpoint × String)}
    (same : ∀ node ∈ spec.nodes, ∀ pin,
      fed'.contains (.node (r.node node.id), pin) = fed.contains (.node node.id, pin)) :
    (spec.renamed r).requiredInputViolations catalogue fed' =
      (spec.requiredInputViolations catalogue fed).map (Violation.renamed r) := by
  rw [requiredInputViolations, requiredInputViolations, Specification.renamed]
  refine flatMap_map_of_renamed _ fun node hn => ?_
  rw [catalogue.signature?_renamed]
  cases catalogue.signature? node with
  | none => rfl
  | some signature =>
    rw [List.map_flatMap]
    refine List.flatMap_congr fun pin _ => ?_
    rw [map_renamed_ifNot, Node.renamed, NodeKind.typeName_renamed, same node hn]
    rfl

/-- Every check reports the renamed violations. -/
theorem violations_renamed (apart : r.Separates spec) :
    (spec.renamed r).violations catalogue = (spec.violations catalogue).map (Violation.renamed r) := by
  have connections : (spec.renamed r).connections.flatMap (new (spec.renamed r) catalogue).connectionViolations =
      (spec.connections.flatMap (new spec catalogue).connectionViolations).map (Violation.renamed r) :=
    flatMap_map_of_renamed _ fun _ hc => connectionViolations_renamed apart hc
  have required : (spec.renamed r).requiredInputViolations catalogue
      ((new (spec.renamed r) catalogue).fedPins (spec.renamed r).connections) =
        (spec.requiredInputViolations catalogue ((new spec catalogue).fedPins spec.connections)).map
          (Violation.renamed r) :=
    requiredInputViolations_renamed fun _ hn => contains_fedPins_renamed apart (mem_mentionedNodes_of_node hn)
  simp only [violations, List.map_append, assetTypeViolations_renamed, interfaceViolations_renamed,
    variableViolations_renamed apart, nodeViolations_renamed apart, connections, defaultViolations_renamed, required,
    interfacePinViolations_renamed]

/-! ### Scripts -/

theorem script_renamed (spec : Specification) (r : Renaming) (target : String) :
    (spec.renamed r).script target = (spec.script target).map (Operation.renamed r) := by
  have placements : spec.nodes.map (Node.placement ∘ Node.renamed r) =
      spec.nodes.map (Operation.renamed r ∘ Node.placement) :=
    List.map_congr_left fun node _ => node.placement_renamed r
  have settings : spec.nodes.flatMap (fun node => (node.renamed r).settings) =
      spec.nodes.flatMap fun node => node.settings.map (Operation.renamed r) :=
    List.flatMap_congr fun node _ => node.settings_renamed r
  simp only [script, renamed, List.map_append, List.map_map, List.map_flatMap, List.flatMap_map, placements, settings]
  rfl

/-- A specification under new names, by which different names stay different, has the diagnoses of the specification,
each about the node under its new name, and its script, operation by operation under the new names. -/
theorem validate_and_script_renamed (spec : Specification) (catalogue : Catalogue) (r : Renaming)
    (apart : r.Separates spec) :
    List.Forall₂ (Diagnostic.Renames r) ((spec.renamed r).validate catalogue) (spec.validate catalogue) ∧
      ∀ target, (spec.renamed r).script target = (spec.script target).map (Operation.renamed r) := by
  refine ⟨?_, script_renamed spec r⟩
  rw [validate, validate, violations_renamed apart, List.map_map, List.forall₂_map_left_iff,
    List.forall₂_map_right_iff, List.forall₂_same]
  exact fun violation _ => ⟨violation.code_renamed r, rfl, violation.kind_renamed r, violation.node?_renamed r⟩

/-- The tone with a second node of an id, which reads a variable that is not declared, and a connection from nowhere. -/
def tangledTone : Specification :=
  (tone.addNode (.ofKind "osc" (.read "Resonance"))).addConnection ⟨.node "ghost", "Out", .node "osc", "Frequency"⟩

/-- The renaming that exchanges a node with the name of the boundary, and a variable with the name of an access. -/
def reservedNames : Renaming :=
  ⟨Equiv.swap "osc" Endpoint.boundaryName, Equiv.swap "Cutoff" NodeKind.readType⟩

/-- Nodes that have the name of the boundary are diagnosed like other nodes. -/
theorem validate_and_script_tangledTone :
    reservedNames.Separates tangledTone ∧
      (tangledTone.renamed reservedNames).nodes.map Node.id = ["__graph__", "filter", "get", "set", "__graph__"] ∧
      List.Forall₂ (Diagnostic.Renames reservedNames) ((tangledTone.renamed reservedNames).validate .builtIn)
        (tangledTone.validate .builtIn) ∧
      ∀ target, (tangledTone.renamed reservedNames).script target =
        (tangledTone.script target).map (Operation.renamed reservedNames) := by
  have apart : reservedNames.Separates tangledTone :=
    Renaming.separates_of_injective (Equiv.swap _ _).injective (Equiv.swap _ _).injective tangledTone
  exact ⟨apart, by decide, validate_and_script_renamed tangledTone .builtIn reservedNames apart⟩

end Specification

end AudioGraph
