import AudioGraph.Specification.Edit
import AudioGraph.Proofs.Diagnosis.WellFormed

/-!
# What diagnoses do not depend on

Much of a specification carries no structure: its name, where its nodes are shown, the values that variables, graph
inputs and pins start with, and whether a variable is read in time or one frame late.  Nodes that read or write
variables may even have literal values under any names.  Without all this a specification is its skeleton
(`Specification.skeleton`), and specifications with the same skeleton have the same diagnoses, word for word.

* (look-ups) Every name finds the same pins in a skeleton (`samePins_skeleton`).
* (diagnoses) Each check reports the same of a skeleton, in the same order (`violations_skeleton`).
-/

namespace AudioGraph

/-! ### Skeletons -/

/-- The variable without its initial value. -/
def Variable.skeleton (v : Variable) : Variable := { v with default := none }

/-- The input without its initial value. -/
def GraphInput.skeleton (pin : GraphInput) : GraphInput := { pin with default := none }

/-- The node without its position and the delay of a read.  Of its literal values a node of a type of the catalogue
keeps the names, and a node that reads or writes a variable keeps nothing. -/
def Node.skeleton (node : Node) : Node where
  id := node.id
  kind := node.kind.undelayed
  position := none
  defaults := if node.kind.isAccessor then .empty else node.defaults.map fun _ => .null

/-- The specification without its name, and without all that its parts lose. -/
def Specification.skeleton (spec : Specification) : Specification :=
  { spec with
    name := ""
    vars := spec.vars.map Variable.skeleton
    inputs := spec.inputs.map GraphInput.skeleton
    nodes := spec.nodes.map Node.skeleton }

/-! ### Nodes -/

theorem Catalogue.signature?_skeleton (catalogue : Catalogue) (node : Node) :
    catalogue.signature? node.skeleton = catalogue.signature? node := by
  obtain ⟨id, kind, position, defaults⟩ := node
  cases kind <;> rfl

namespace Node

variable {catalogue : Catalogue} {node : Node} {signature : NodeSignature}

/-- A node of a type of the catalogue keeps its type. -/
theorem typeName_skeleton (h : catalogue.signature? node = some signature) :
    node.skeleton.kind.typeName = node.kind.typeName := by
  obtain ⟨typeName, external, -⟩ := Catalogue.signature?_eq_some_iff.1 h
  rw [skeleton, external]
  rfl

/-- A node of a type of the catalogue keeps its table, but for the values. -/
theorem defaults_skeleton (h : catalogue.signature? node = some signature) :
    node.skeleton.defaults = node.defaults.map fun _ => .null := by
  obtain ⟨typeName, external, -⟩ := Catalogue.signature?_eq_some_iff.1 h
  rw [skeleton, external]
  rfl

end Node

namespace Specification

variable (spec : Specification) (catalogue : Catalogue)

/-! ### Look-ups -/

/-- Every name finds the same pins in a skeleton. -/
theorem samePins_skeleton : spec.skeleton.SamePins spec where
  inputs name := by
    have found : spec.skeleton.findInput? name = (spec.findInput? name).map GraphInput.skeleton :=
      find?_map_of_named GraphInput.name GraphInput.skeleton (fun _ => rfl) name spec.inputs
    rw [found, Option.map_map]
    rfl
  outputs name := rfl
  vars name := by
    have found : spec.skeleton.findVariable? name = (spec.findVariable? name).map Variable.skeleton :=
      find?_map_of_named Variable.name Variable.skeleton (fun _ => rfl) name spec.vars
    rw [found, Option.map_map]
    rfl
  nodes id := by
    have found : spec.skeleton.findNode? id = (spec.findNode? id).map Node.skeleton :=
      find?_map_of_named Node.id Node.skeleton (fun _ => rfl) id spec.nodes
    rw [found, Option.map_map]
    exact Option.map_congr fun node _ => node.kind.undelayed_undelayed

/-! ### Diagnoses -/

theorem variableViolations_skeleton :
    spec.skeleton.variableViolations catalogue = spec.variableViolations catalogue := by
  have vars : markRepeats Variable.name spec.skeleton.vars =
      (markRepeats Variable.name spec.vars).map fun m => (m.1.skeleton, m.2) :=
    markRepeats_map_of_named Variable.name Variable.skeleton (fun _ => rfl) spec.vars
  rw [variableViolations, vars, List.flatMap_map]
  rfl

theorem nodeKindViolations_skeleton (node : Node) :
    spec.skeleton.nodeKindViolations catalogue node.skeleton = spec.nodeKindViolations catalogue node := by
  rw [nodeKindViolations_congr spec.samePins_skeleton]
  obtain ⟨id, kind, position, defaults⟩ := node
  cases kind <;> rfl

theorem nodeViolations_skeleton : spec.skeleton.nodeViolations catalogue = spec.nodeViolations catalogue := by
  have nodes : markRepeats Node.id spec.skeleton.nodes =
      (markRepeats Node.id spec.nodes).map fun m => (m.1.skeleton, m.2) :=
    markRepeats_map_of_named Node.id Node.skeleton (fun _ => rfl) spec.nodes
  rw [nodeViolations, nodeViolations, nodes, List.flatMap_map]
  exact List.flatMap_congr fun m _ => congrArg _ (spec.nodeKindViolations_skeleton catalogue m.1)

theorem defaultViolations_skeleton :
    spec.skeleton.defaultViolations catalogue = spec.defaultViolations catalogue := by
  rw [defaultViolations, defaultViolations, skeleton, List.flatMap_map]
  refine List.flatMap_congr fun node _ => ?_
  rw [catalogue.signature?_skeleton]
  cases known : catalogue.signature? node with
  | none => rfl
  | some signature =>
    rw [Node.typeName_skeleton known, Node.defaults_skeleton known, Table.names_map]
    rfl

theorem requiredInputViolations_skeleton (fed : List (Endpoint × String)) :
    spec.skeleton.requiredInputViolations catalogue fed = spec.requiredInputViolations catalogue fed := by
  rw [requiredInputViolations, requiredInputViolations, skeleton, List.flatMap_map]
  refine List.flatMap_congr fun node _ => ?_
  rw [catalogue.signature?_skeleton]
  cases known : catalogue.signature? node with
  | none => rfl
  | some signature =>
    simp only [Node.typeName_skeleton known, Node.defaults_skeleton known, Table.get?_map, Option.isSome_map]
    rfl

theorem interfacePinViolations_skeleton :
    spec.skeleton.interfacePinViolations catalogue = spec.interfacePinViolations catalogue :=
  interfacePinViolations_congr spec.samePins_skeleton rfl

/-- Each check reports the same of a skeleton. -/
theorem violations_skeleton : spec.skeleton.violations catalogue = spec.violations catalogue := by
  have same := spec.samePins_skeleton
  have connections : spec.skeleton.connections.flatMap (PinResolver.new spec.skeleton catalogue).connectionViolations =
      spec.connections.flatMap (PinResolver.new spec catalogue).connectionViolations :=
    List.flatMap_congr fun c _ => PinResolver.connectionViolations_congr same c
  have fed : (PinResolver.new spec.skeleton catalogue).fedPins spec.skeleton.connections =
      (PinResolver.new spec catalogue).fedPins spec.connections :=
    PinResolver.fedPins_congr same spec.connections
  have assetType : spec.skeleton.assetTypeViolations catalogue = spec.assetTypeViolations catalogue := rfl
  have interfaces : spec.skeleton.interfaceViolations catalogue = spec.interfaceViolations catalogue := rfl
  simp only [violations, assetType, interfaces, variableViolations_skeleton, nodeViolations_skeleton, connections,
    defaultViolations_skeleton, fed, requiredInputViolations_skeleton, interfacePinViolations_skeleton]

/-- Specifications that differ in nothing but what carries no structure have the same diagnoses: the same problems with
the same messages, in the same order. -/
theorem validate_eq_of_skeleton_eq (spec other : Specification) (catalogue : Catalogue)
    (same : spec.skeleton = other.skeleton) : spec.validate catalogue = other.validate catalogue := by
  have violations : spec.violations catalogue = other.violations catalogue := by
    rw [← violations_skeleton spec, ← violations_skeleton other, same]
  rw [validate, validate, violations]

/-- The tone with a connection from nowhere. -/
def haunted : Specification := tone.addConnection ⟨.node "ghost", "Out", .node "osc", "Frequency"⟩

/-- The same under another name: the sine has moved and is tuned in words, the variable has lost its initial value and
the distance has got one, the variable is read late, and is written by a node with a value for a pin that it does not
have. -/
def retouched : Specification :=
  { haunted with
    name := "Retouched"
    vars := [⟨"Cutoff", "Float", none⟩]
    inputs := [⟨"Distance", "Float", some .null⟩]
    nodes := [((Node.ofKind "osc" (.external "Sine")).withDefault "Frequency" (.str "A3")).placedAt 100 (-2.5),
      (Node.ofKind "filter" (.external "Biquad Filter")).withDefault "Bandwidth" .null,
      .ofKind "get" (.delayedRead "Cutoff"), (Node.ofKind "set" (.write "Cutoff")).withDefault "Tint" .null] }

theorem validate_retouched :
    haunted ≠ retouched ∧ haunted.skeleton = retouched.skeleton ∧
      haunted.validate .builtIn = retouched.validate .builtIn := by
  have same : haunted.skeleton = retouched.skeleton := by decide
  exact ⟨by decide, same, validate_eq_of_skeleton_eq haunted retouched .builtIn same⟩

end Specification

end AudioGraph
