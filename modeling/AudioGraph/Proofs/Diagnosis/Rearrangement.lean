import Mathlib.Data.List.Perm.Basic
import AudioGraph.Proofs.Diagnosis.WellFormed

/-!
# Rearranging specifications

In which order a specification declares its parts does not matter to what is wrong with it, provided that no name stands
twice.  The checks go through its lists in their order and stop at the first element of a name, but among distinct names
the first one is the only one, and what one check hands over to another is used as a set.

A specification is rearranged by putting each of its lists into another order, and the literal values of each node
(`Specification.Rearranged`).

* (look-ups) A rearranged specification has the same names and the same pins (`Rearranged.distinctNames`,
  `Rearranged.samePins`).
* (diagnoses) Each check reports the same violations in another order (`Rearranged.perm_violations`).
-/

namespace AudioGraph

/-- The same node with its literal values in another order. -/
structure Node.Rearranged (node other : Node) : Prop where
  id : node.id = other.id
  kind : node.kind = other.kind
  position : node.position = other.position
  defaults : node.defaults.entries.Perm other.defaults.entries

namespace Specification

/-- The same specification with its lists, and the literal values of its nodes, in another order. -/
structure Rearranged (spec other : Specification) : Prop where
  name : spec.name = other.name
  assetType : spec.assetType = other.assetType
  interfaces : spec.interfaces.Perm other.interfaces
  vars : spec.vars.Perm other.vars
  inputs : spec.inputs.Perm other.inputs
  outputs : spec.outputs.Perm other.outputs
  nodes : ∃ nodes, spec.nodes.Perm nodes ∧ List.Forall₂ Node.Rearranged nodes other.nodes
  connections : spec.connections.Perm other.connections

/-- No name stands twice among the variables, the nodes, or the pins of one side of the boundary. -/
structure DistinctNames (spec : Specification) : Prop where
  vars : (spec.vars.map Variable.name).Nodup
  inputs : (spec.inputs.map GraphInput.name).Nodup
  outputs : (spec.outputs.map GraphOutput.name).Nodup
  nodes : (spec.nodes.map Node.id).Nodup

end Specification

/-! ### Nodes -/

namespace Node.Rearranged

variable {node other : Node}

theorem mem_names_iff (h : node.Rearranged other) {pin : String} :
    pin ∈ node.defaults.names ↔ pin ∈ other.defaults.names :=
  (h.defaults.map _).mem_iff

theorem isSome_default (h : node.Rearranged other) (pin : String) :
    (node.defaults.get? pin).isSome = (other.defaults.get? pin).isSome := by
  rw [Bool.eq_iff_iff, Table.isSome_get?_iff, Table.isSome_get?_iff, h.mem_names_iff]

theorem signature? (h : node.Rearranged other) (catalogue : Catalogue) :
    catalogue.signature? node = catalogue.signature? other := by
  rw [Catalogue.signature?, Catalogue.signature?, h.kind]

end Node.Rearranged

private theorem perm_flatMap_of_forall₂ {α β : Type} {R : α → α → Prop} {xs ys : List α} {f g : α → List β}
    (h : List.Forall₂ R xs ys) (hfg : ∀ x y, R x y → (f x).Perm (g y)) : (xs.flatMap f).Perm (ys.flatMap g) := by
  induction h with
  | nil => exact .nil
  | cons hxy _ ih => exact (hfg _ _ hxy).append ih

namespace Specification

variable {spec other : Specification} {catalogue : Catalogue}

namespace Rearranged

/-- What is collected from the nodes is the same in another order, if it is so for each node. -/
theorem perm_flatMap_nodes {β : Type} {f g : Node → List β} (h : spec.Rearranged other)
    (hfg : ∀ a b, a.Rearranged b → (f a).Perm (g b)) : (spec.nodes.flatMap f).Perm (other.nodes.flatMap g) := by
  obtain ⟨nodes, reordered, rearranged⟩ := h.nodes
  exact (reordered.flatMap_right f).trans (perm_flatMap_of_forall₂ rearranged hfg)

theorem perm_map_nodes {β : Type} {f : Node → β} (h : spec.Rearranged other)
    (hf : ∀ a b, a.Rearranged b → f a = f b) : (spec.nodes.map f).Perm (other.nodes.map f) := by
  rw [List.map_eq_flatMap, List.map_eq_flatMap]
  exact h.perm_flatMap_nodes fun a b hab => .of_eq (by rw [hf a b hab])

/-! ### Look-ups -/

theorem distinctNames (h : spec.Rearranged other) (distinct : spec.DistinctNames) : other.DistinctNames where
  vars := (h.vars.map _).nodup_iff.1 distinct.vars
  inputs := (h.inputs.map _).nodup_iff.1 distinct.inputs
  outputs := (h.outputs.map _).nodup_iff.1 distinct.outputs
  nodes := (h.perm_map_nodes fun _ _ hab => hab.id).nodup_iff.1 distinct.nodes

/-- Among distinct names, every name finds the same pins. -/
theorem samePins (h : spec.Rearranged other) (distinct : spec.DistinctNames) : spec.SamePins other where
  inputs name := congrArg _ (find?_eq_of_perm distinct.inputs h.inputs name)
  outputs name := congrArg _ (find?_eq_of_perm distinct.outputs h.outputs name)
  vars name := congrArg _ (find?_eq_of_perm distinct.vars h.vars name)
  nodes id := by
    -- the defaults of a node may change, so that nodes are looked up without them
    have perm : (spec.nodes.map Node.bare).Perm (other.nodes.map Node.bare) :=
      h.perm_map_nodes fun _ _ hab => by rw [Node.bare, Node.bare, hab.id, hab.kind]
    have ids : ((spec.nodes.map Node.bare).map Node.id).Nodup := by
      rw [List.map_map]
      exact distinct.nodes
    rw [map_kind_findNode?, map_kind_findNode?, find?_eq_of_perm ids perm id]

/-! ### Diagnoses -/

theorem perm_variableViolations (h : spec.Rearranged other) (distinct : spec.DistinctNames) :
    (spec.variableViolations catalogue).Perm (other.variableViolations catalogue) := by
  rw [variableViolations, variableViolations, markRepeats_of_nodup distinct.vars,
    markRepeats_of_nodup (h.distinctNames distinct).vars]
  exact (h.vars.map _).flatMap_right _

theorem nodeKindViolations_eq (h : spec.Rearranged other) (distinct : spec.DistinctNames) {a b : Node}
    (hab : a.Rearranged b) : spec.nodeKindViolations catalogue a = other.nodeKindViolations catalogue b := by
  rw [nodeKindViolations_congr (h.samePins distinct), nodeKindViolations, nodeKindViolations, hab.kind, hab.id]

theorem perm_nodeViolations (h : spec.Rearranged other) (distinct : spec.DistinctNames) :
    (spec.nodeViolations catalogue).Perm (other.nodeViolations catalogue) := by
  rw [nodeViolations, nodeViolations, markRepeats_of_nodup distinct.nodes,
    markRepeats_of_nodup (h.distinctNames distinct).nodes, List.flatMap_map, List.flatMap_map]
  exact h.perm_flatMap_nodes fun a b hab => .of_eq (h.nodeKindViolations_eq distinct hab)

theorem perm_connectionViolations (h : spec.Rearranged other) (distinct : spec.DistinctNames) :
    (spec.connections.flatMap (PinResolver.new spec catalogue).connectionViolations).Perm
      (other.connections.flatMap (PinResolver.new other catalogue).connectionViolations) :=
  h.connections.flatMap fun c _ => .of_eq (PinResolver.connectionViolations_congr (h.samePins distinct) c)

theorem perm_defaultViolations (h : spec.Rearranged other) :
    (spec.defaultViolations catalogue).Perm (other.defaultViolations catalogue) := by
  refine h.perm_flatMap_nodes fun a b hab => ?_
  rw [hab.signature?, hab.id, hab.kind]
  cases catalogue.signature? b with
  | none => exact .nil
  | some signature => exact (hab.defaults.map _).flatMap_right _

/-- The same pins are fed. -/
theorem contains_fedPins (h : spec.Rearranged other) (distinct : spec.DistinctNames) (catalogue : Catalogue)
    (pin : Endpoint × String) :
    ((PinResolver.new spec catalogue).fedPins spec.connections).contains pin =
      ((PinResolver.new other catalogue).fedPins other.connections).contains pin := by
  rw [Bool.eq_iff_iff, List.contains_iff_mem, List.contains_iff_mem, PinResolver.fedPins_congr (h.samePins distinct)]
  exact ((h.connections.filter _).map _).mem_iff

theorem perm_requiredInputViolations (h : spec.Rearranged other) {fed fed' : List (Endpoint × String)}
    (same : ∀ pin, fed.contains pin = fed'.contains pin) :
    (spec.requiredInputViolations catalogue fed).Perm (other.requiredInputViolations catalogue fed') := by
  refine h.perm_flatMap_nodes fun a b hab => ?_
  rw [hab.signature?, hab.id, hab.kind]
  cases catalogue.signature? b with
  | none => exact .nil
  | some signature => exact .of_eq (List.flatMap_congr fun pin _ => by rw [same, hab.isSome_default])

theorem perm_interfacePinViolations (h : spec.Rearranged other) (distinct : spec.DistinctNames) :
    (spec.interfacePinViolations catalogue).Perm (other.interfacePinViolations catalogue) := by
  have same := h.samePins distinct
  simp only [interfacePinViolations, same.isSome_findInput?, same.isSome_findOutput?]
  exact h.interfaces.flatMap_right _

/-- A rearranged specification has the same violations, in another order. -/
theorem perm_violations (h : spec.Rearranged other) (distinct : spec.DistinctNames) (catalogue : Catalogue) :
    (spec.violations catalogue).Perm (other.violations catalogue) := by
  have assetType : (spec.assetTypeViolations catalogue).Perm (other.assetTypeViolations catalogue) := by
    rw [assetTypeViolations, assetTypeViolations, h.assetType]
  have interfaces : (spec.interfaceViolations catalogue).Perm (other.interfaceViolations catalogue) :=
    h.interfaces.flatMap_right _
  exact assetType.append interfaces
    |>.append (h.perm_variableViolations distinct)
    |>.append (h.perm_nodeViolations distinct)
    |>.append (h.perm_connectionViolations distinct)
    |>.append h.perm_defaultViolations
    |>.append (h.perm_requiredInputViolations (h.contains_fedPins distinct catalogue))
    |>.append (h.perm_interfacePinViolations distinct)

end Rearranged

/-- The order of its parts does not decide what is diagnosed of a specification without repeated names. -/
theorem validate_perm_of_rearranged (spec other : Specification) (catalogue : Catalogue)
    (distinct : spec.DistinctNames) (rearranged : spec.Rearranged other) :
    (spec.validate catalogue).Perm (other.validate catalogue) ∧
      (spec.validate catalogue = [] ↔ other.validate catalogue = []) := by
  have perm : (spec.validate catalogue).Perm (other.validate catalogue) :=
    (rearranged.perm_violations distinct catalogue).map Violation.toDiagnostic
  exact ⟨perm, fun h => (h ▸ perm).nil_eq.symm, fun h => (h ▸ perm).eq_nil⟩

/-- A sine in a graph where much is wrong: an interface, a pin type, a variable and a node that nobody knows, and a
literal value for no pin. -/
def strayTone : Specification where
  name := "Stray"
  assetType := "Patch"
  interfaces := ["UE.Source.OneShot", "UE.Nowhere"]
  vars := [⟨"Cutoff", "Float", none⟩, ⟨"Mood", "Colour", none⟩]
  inputs := [⟨"Distance", "Float", none⟩, ⟨"OnPlay", "Trigger", none⟩]
  outputs := [⟨"Out", "Audio"⟩, ⟨"OnFinished", "Trigger"⟩]
  nodes := [((Node.ofKind "osc" (.external "Sine")).withDefault "Frequency" (.num (.int 220))).withDefault "Tint" .null,
    .ofKind "get" (.read "Resonance")]
  connections := [⟨.node "osc", "Audio", .boundary, "Out"⟩, ⟨.node "ghost", "Out", .node "osc", "Frequency"⟩]

/-- The stray tone, last things first. -/
def strayToneBackwards : Specification :=
  { strayTone with
    interfaces := strayTone.interfaces.reverse
    vars := strayTone.vars.reverse
    inputs := strayTone.inputs.reverse
    outputs := strayTone.outputs.reverse
    nodes := [.ofKind "get" (.read "Resonance"),
      ((Node.ofKind "osc" (.external "Sine")).withDefault "Tint" .null).withDefault "Frequency" (.num (.int 220))]
    connections := strayTone.connections.reverse }

/-- The stray tone has the same diagnoses from either end. -/
theorem validate_perm_strayTone :
    strayTone.DistinctNames ∧ strayTone.Rearranged strayToneBackwards ∧
      (strayTone.validate .builtIn).Perm (strayToneBackwards.validate .builtIn) ∧
      (strayTone.validate .builtIn = [] ↔ strayToneBackwards.validate .builtIn = []) := by
  have distinct : strayTone.DistinctNames := ⟨by decide, by decide, by decide, by decide⟩
  have nodes : List.Forall₂ Node.Rearranged strayTone.nodes.reverse strayToneBackwards.nodes :=
    .cons ⟨rfl, rfl, rfl, .refl _⟩ (.cons ⟨rfl, rfl, rfl, .swap _ _ _⟩ .nil)
  have rearranged : strayTone.Rearranged strayToneBackwards :=
    { name := rfl
      assetType := rfl
      interfaces := (List.reverse_perm _).symm
      vars := (List.reverse_perm _).symm
      inputs := (List.reverse_perm _).symm
      outputs := (List.reverse_perm _).symm
      nodes := ⟨_, (List.reverse_perm _).symm, nodes⟩
      connections := (List.reverse_perm _).symm }
  exact ⟨distinct, rearranged, validate_perm_of_rearranged strayTone strayToneBackwards .builtIn distinct rearranged⟩

end Specification

end AudioGraph
