import Mathlib.Data.List.Forall2
import AudioGraph.Specification.Edit
import AudioGraph.Proofs.Diagnosis.WellFormed
import AudioGraph.Proofs.Script.Order

/-!
# What a script keeps of a specification

A script is flat: literal values stand apart from the nodes they belong to, and know them by their ids alone.  It has
nothing of where a node that reads or writes a variable is shown, and none of its literal values.

* (phases) Equal scripts have the same operations in every phase (`phaseOperations_eq_of_script_eq`), which give back
  the lists of the specification.
* (nodes) Where ids are distinct, the placement of a node finds its literal values again (`map_operations_nodes`), and
  both together tell all of the node that is not stripped (`stripped_eq_of_operations_eq`).
-/

namespace AudioGraph

namespace Operation

/-- The node to which an operation gives a literal value. -/
def setNode? (op : Operation) : Option String := op.setInput?.map (·.1)

end Operation

namespace Node

/-- The node without what no operation tells of it: a node that reads or writes a variable loses its position and its
literal values. -/
def stripped (node : Node) : Node :=
  if node.kind.isAccessor then { node with position := none, defaults := .empty } else node

theorem placement_stripped (node : Node) : node.stripped.placement = node.placement := by
  obtain ⟨id, kind, position, defaults⟩ := node
  cases kind <;> rfl

theorem settings_stripped (node : Node) : node.stripped.settings = node.settings := by
  obtain ⟨id, kind, position, defaults⟩ := node
  cases kind <;> rfl

/-- The operations that a node is made of. -/
def operations (node : Node) : Operation × List Operation := (node.placement, node.settings)

private theorem eq_of_placement_eq {a b : Node} (h : a.placement = b.placement) :
    a.id = b.id ∧ a.kind = b.kind ∧ (a.kind.isAccessor = false → a.position = b.position) := by
  obtain ⟨id, kind, position, defaults⟩ := a
  obtain ⟨otherId, otherKind, otherPosition, otherDefaults⟩ := b
  cases kind <;> cases otherKind <;> simp_all [placement, NodeKind.isAccessor, NodeKind.accessed?]

private theorem defaults_eq_of_settings_eq {a b : Node} (id : a.id = b.id) (kind : a.kind = b.kind)
    (external : a.kind.isAccessor = false) (h : a.settings = b.settings) : a.defaults = b.defaults := by
  refine Table.eq_of_entries ?_
  unfold settings at h
  rw [← kind, ← id, external] at h
  refine List.map_injective_iff.2 (fun x y hxy => ?_) h
  obtain ⟨-, name, value⟩ := Operation.setDefault.inj hxy
  exact Prod.ext name value

/-- The operations that a node is made of tell all of it that is not stripped. -/
theorem stripped_eq_of_operations_eq {a b : Node} (h : a.operations = b.operations) : a.stripped = b.stripped := by
  obtain ⟨placement, settings⟩ := Prod.mk.inj h
  obtain ⟨id, kind, position⟩ := eq_of_placement_eq placement
  unfold stripped
  rw [← kind]
  cases accessor : a.kind.isAccessor with
  | true => simp only [↓reduceIte, id, kind]
  | false =>
    have defaults := defaults_eq_of_settings_eq id kind accessor settings
    simp only [Bool.false_eq_true, ↓reduceIte]
    cases a
    cases b
    simp_all

end Node

namespace Specification

variable {spec other : Specification} {target : String}

/-- The specification without what no operation tells of its nodes. -/
def stripped (spec : Specification) : Specification := { spec with nodes := spec.nodes.map Node.stripped }

/-- What is stripped does not show in a script. -/
theorem script_stripped (spec : Specification) (target : String) :
    spec.stripped.script target = spec.script target := by
  simp only [script, stripped, List.map_map, List.flatMap_map, Function.comp_def, Node.placement_stripped,
    Node.settings_stripped]

/-! ### Phases -/

/-- The operations of a phase stand in a script as they are. -/
theorem filter_phase_script {n : Nat} (hn : n < 9) :
    (spec.script target).filter (fun op => op.phase == n) = spec.phaseOperations target n := by
  rw [filter_script hn fun op h => beq_iff_eq.1 h, List.filter_eq_self]
  exact fun op ho => beq_iff_eq.2 (phase_of_mem_phaseOperations ho)

/-- Equal scripts have the same operations in every phase. -/
theorem phaseOperations_eq_of_script_eq {otherTarget : String} (h : spec.script target = other.script otherTarget)
    {n : Nat} (hn : n < 9) : spec.phaseOperations target n = other.phaseOperations otherTarget n := by
  rw [← filter_phase_script hn, ← filter_phase_script hn, h]

/-! ### Nodes -/

/-- The literal values that name a node are those of the node if ids are distinct. -/
theorem filter_setNode?_settings (ids : (spec.nodes.map Node.id).Nodup) {node : Node} (hn : node ∈ spec.nodes) :
    (spec.nodes.flatMap Node.settings).filter (fun op => op.setNode? == some node.id) = node.settings := by
  have named : ∀ n : Node, ∀ op ∈ n.settings, op.setNode? = some n.id := by
    intro n op ho
    obtain ⟨-, entry, -, rfl⟩ := Node.mem_settings_iff.1 ho
    rfl
  rw [List.filter_flatMap, flatMap_eq_of_nodup ids hn, List.filter_eq_self]
  · exact fun op ho => beq_iff_eq.2 (named node op ho)
  · intro n _ hne
    refine List.filter_eq_nil_iff.2 fun op ho hs => hne ?_
    exact Option.some.inj ((named n op ho).symm.trans (beq_iff_eq.1 hs))

/-- Where ids are distinct, each placement finds the literal values of its node among those of all nodes. -/
theorem map_operations_nodes (ids : (spec.nodes.map Node.id).Nodup) (target : String) :
    spec.nodes.map Node.operations = (spec.phaseOperations target 5).map fun placement =>
      (placement, (spec.phaseOperations target 6).filter fun op => op.setNode? == placement.placedNode?) := by
  rw [phaseOperations, phaseOperations, List.map_map]
  refine List.map_congr_left fun node hn => ?_
  simp only [Function.comp_apply, Node.placedNode?_placement, filter_setNode?_settings ids hn]
  rfl

/-- Equal scripts come from equal nodes, up to what is stripped. -/
theorem map_stripped_eq_of_script_eq (ids : (spec.nodes.map Node.id).Nodup)
    (otherIds : (other.nodes.map Node.id).Nodup) {otherTarget : String}
    (h : spec.script target = other.script otherTarget) :
    spec.nodes.map Node.stripped = other.nodes.map Node.stripped := by
  have operations : spec.nodes.map Node.operations = other.nodes.map Node.operations := by
    rw [map_operations_nodes ids target, map_operations_nodes otherIds otherTarget,
      phaseOperations_eq_of_script_eq h (show 5 < 9 by decide),
      phaseOperations_eq_of_script_eq h (show 6 < 9 by decide)]
  rw [← List.forall₂_eq_eq_eq, List.forall₂_map_left_iff, List.forall₂_map_right_iff] at operations ⊢
  exact operations.imp fun _ _ => Node.stripped_eq_of_operations_eq

/-! ### Scripts -/

/-- Specifications with distinct ids have the same script exactly if they are stored at the same place and differ in
nothing but the positions and the literal values of nodes that read or write variables. -/
theorem script_eq_script_iff (ids : (spec.nodes.map Node.id).Nodup) (otherIds : (other.nodes.map Node.id).Nodup)
    (target otherTarget : String) :
    spec.script target = other.script otherTarget ↔ target = otherTarget ∧ spec.stripped = other.stripped := by
  constructor
  · intro h
    have phase {n : Nat} (hn : n < 9) := phaseOperations_eq_of_script_eq h hn
    obtain ⟨assetType, name⟩ := Operation.beginGraph.inj (List.cons.inj (phase (n := 0) (by decide))).1
    have interfaces : spec.interfaces = other.interfaces :=
      List.map_injective_iff.2 (fun _ _ => Operation.attachInterface.inj) (phase (n := 1) (by decide))
    have vars : spec.vars = other.vars :=
      List.map_injective_iff.2 (fun v w hvw => by cases v; cases w; simpa using hvw) (phase (n := 2) (by decide))
    have inputs : spec.inputs = other.inputs :=
      List.map_injective_iff.2 (fun v w hvw => by cases v; cases w; simpa using hvw) (phase (n := 3) (by decide))
    have outputs : spec.outputs = other.outputs :=
      List.map_injective_iff.2 (fun v w hvw => by cases v; cases w; simpa using hvw) (phase (n := 4) (by decide))
    have connections : spec.connections = other.connections :=
      List.map_injective_iff.2 (fun _ _ => Operation.connect.inj) (phase (n := 7) (by decide))
    obtain ⟨-, place⟩ := Operation.finalize.inj (List.cons.inj (phase (n := 8) (by decide))).1
    refine ⟨place, ?_⟩
    simp only [stripped, name, assetType, interfaces, vars, inputs, outputs, connections,
      map_stripped_eq_of_script_eq ids otherIds h]
  · rintro ⟨rfl, h⟩
    rw [← script_stripped spec, ← script_stripped other, h]

/-- The tone with marks that no operation tells of: where its variable is read, and a literal value where it is
written. -/
def markedTone : Specification :=
  (tone.modifyNode 2 fun node => node.placedAt 320 160).setDefault 3 "Value" (.num (.int 800))

/-- The marks make another specification of the tone, and the same script. -/
theorem script_markedTone :
    (tone.nodes.map Node.id).Nodup ∧ (markedTone.nodes.map Node.id).Nodup ∧ tone ≠ markedTone ∧
      tone.stripped = markedTone.stripped ∧
      (tone.script "/Game/" = markedTone.script "/Game/" ↔
        "/Game/" = "/Game/" ∧ tone.stripped = markedTone.stripped) := by
  have ids : (tone.nodes.map Node.id).Nodup := by decide
  have markedIds : (markedTone.nodes.map Node.id).Nodup := by decide
  exact ⟨ids, markedIds, by decide, by decide, script_eq_script_iff ids markedIds "/Game/" "/Game/"⟩

/-- Where two nodes share their id, a script does not tell which of them has a literal value. -/
example :
    let plain := Node.ofKind "osc" (.external "Sine")
    let tuned := plain.withDefault "Frequency" (.num (.int 220))
    let spec := (empty "Pair" "Patch").addNode plain |>.addNode tuned
    let other := (empty "Pair" "Patch").addNode tuned |>.addNode plain
    spec.script "/Game/" = other.script "/Game/" ∧ spec.stripped ≠ other.stripped := by
  decide

end Specification

end AudioGraph
