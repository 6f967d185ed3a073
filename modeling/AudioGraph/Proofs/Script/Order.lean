import AudioGraph.Script.Compile
import AudioGraph.Proofs.Names

/-!
# The order of a script

The actions come in nine phases: the graph is named, its interfaces are attached, its variables, inputs and outputs are
declared, its nodes are placed, literal values are given, pins are connected, and the graph is stored.

* (phases) A script is made of the operations of each phase in turn (`script_eq_flatMap`), so that the phase never
  decreases (`pairwise_phase_script`), and operations of one phase are those that the phase is made of
  (`filter_script`).
* (prefixes) All operations of an earlier phase stand before an operation (`filter_take_script`).
* (contents) Where a phase makes the elements of a list under their names (`MakesNamed`), a script names them in their
  order, and makes all of them.  The operations under a name make the elements of the name (`MakesNamed.filter_script`).
-/

namespace AudioGraph

/-- The place of an action in the order of a script.  The actions that place nodes share one. -/
def Action.phase : Action → Nat
  | beginGraph => 0
  | attachInterface => 1
  | declareVariable => 2
  | declareGraphInput => 3
  | declareGraphOutput => 4
  | placeNode | placeVariableRead | placeVariableWrite => 5
  | setDefault => 6
  | connect => 7
  | finalize => 8

theorem Action.phase_lt (action : Action) : action.phase < 9 := by
  cases action <;> decide

namespace Operation

/-- The place of an operation in the order of a script. -/
def phase (op : Operation) : Nat := op.action.phase

/-- The variable that an operation declares. -/
def declaredVariable? : Operation → Option String
  | declareVariable name .. => some name
  | _ => none

/-- The node that an operation places. -/
def placedNode? : Operation → Option String
  | placeNode id .. | placeVariableRead id .. | placeVariableWrite id .. => some id
  | _ => none

/-- The node and the input to which an operation gives a literal value. -/
def setInput? : Operation → Option (String × String)
  | setDefault node input _ => some (node, input)
  | _ => none

theorem phase_of_declaredVariable? {op : Operation} {name : String} (h : op.declaredVariable? = some name) :
    op.phase = 2 := by
  cases op with
  | declareVariable => rfl
  | _ => cases h

theorem phase_of_placedNode? {op : Operation} {id : String} (h : op.placedNode? = some id) : op.phase = 5 := by
  cases op with
  | placeNode => rfl
  | placeVariableRead => rfl
  | placeVariableWrite => rfl
  | _ => cases h

theorem phase_of_setInput? {op : Operation} {input : String × String} (h : op.setInput? = some input) :
    op.phase = 6 := by
  cases op with
  | setDefault => rfl
  | _ => cases h

end Operation

namespace Node

theorem phase_placement (node : Node) : node.placement.phase = 5 := by
  unfold placement
  cases node.kind <;> rfl

theorem placedNode?_placement (node : Node) : node.placement.placedNode? = some node.id := by
  unfold placement
  cases node.kind <;> rfl

/-- Literal values are given to nodes of types of the catalogue, from their tables. -/
theorem mem_settings_iff {node : Node} {op : Operation} :
    op ∈ node.settings ↔
      node.kind.isAccessor = false ∧ ∃ entry ∈ node.defaults.entries, op = .setDefault node.id entry.1 entry.2 := by
  unfold settings
  cases node.kind.isAccessor <;> simp [eq_comm]

end Node

namespace Specification

variable {spec : Specification} {target : String}

/-! ### Phases -/

/-- The operations of a phase. -/
def phaseOperations (spec : Specification) (target : String) : Nat → List Operation
  | 0 => [.beginGraph spec.assetType spec.name]
  | 1 => spec.interfaces.map .attachInterface
  | 2 => spec.vars.map fun v => .declareVariable v.name v.pinType v.default
  | 3 => spec.inputs.map fun pin => .declareGraphInput pin.name pin.pinType pin.default
  | 4 => spec.outputs.map fun pin => .declareGraphOutput pin.name pin.pinType
  | 5 => spec.nodes.map Node.placement
  | 6 => spec.nodes.flatMap Node.settings
  | 7 => spec.connections.map .connect
  | 8 => [.finalize spec.name target]
  | _ => []

theorem script_eq_flatMap (spec : Specification) (target : String) :
    spec.script target = (List.range 9).flatMap (spec.phaseOperations target) := by
  simp [script, phaseOperations, List.range_succ]

theorem phase_of_mem_phaseOperations {n : Nat} {op : Operation} (h : op ∈ spec.phaseOperations target n) :
    op.phase = n := by
  unfold phaseOperations at h
  split at h
  case h_1 =>
    obtain rfl := List.mem_singleton.1 h
    rfl
  case h_6 =>
    obtain ⟨node, -, rfl⟩ := List.mem_map.1 h
    exact node.phase_placement
  case h_7 =>
    obtain ⟨node, -, ho⟩ := List.mem_flatMap.1 h
    obtain ⟨-, entry, -, rfl⟩ := Node.mem_settings_iff.1 ho
    rfl
  case h_9 =>
    obtain rfl := List.mem_singleton.1 h
    rfl
  case h_10 => cases h
  all_goals
    obtain ⟨_, -, rfl⟩ := List.mem_map.1 h
    rfl

/-- Along a script the phase never decreases. -/
theorem pairwise_phase_script (spec : Specification) (target : String) :
    (spec.script target).Pairwise fun a b => a.phase ≤ b.phase := by
  rw [script_eq_flatMap, List.pairwise_flatMap]
  constructor
  -- operations of one block, and operations of two blocks
  · intro n _
    refine List.pairwise_of_forall_mem_list fun a ha b hb => ?_
    exact Nat.le_of_eq ((phase_of_mem_phaseOperations ha).trans (phase_of_mem_phaseOperations hb).symm)
  · refine List.pairwise_le_range.imp fun hle a ha b hb => ?_
    rw [phase_of_mem_phaseOperations ha, phase_of_mem_phaseOperations hb]
    exact hle

/-- The operations of a script that are of one phase are among those that the phase is made of. -/
theorem filter_script {n : Nat} (hn : n < 9) {selects : Operation → Bool}
    (one : ∀ op, selects op = true → op.phase = n) :
    (spec.script target).filter selects = (spec.phaseOperations target n).filter selects := by
  rw [script_eq_flatMap, List.filter_flatMap]
  have distinct : ((List.range 9).map id).Nodup := by simpa using List.nodup_range
  refine flatMap_eq_of_nodup distinct (List.mem_range.2 hn) fun m _ hm => ?_
  refine List.filter_eq_nil_iff.2 fun op ho hs => hm ?_
  rw [id, ← phase_of_mem_phaseOperations ho, one op hs, id]

theorem mem_script_iff {op : Operation} :
    op ∈ spec.script target ↔ op ∈ spec.phaseOperations target op.phase := by
  rw [script_eq_flatMap, List.mem_flatMap]
  constructor
  · rintro ⟨n, -, h⟩
    rwa [phase_of_mem_phaseOperations h]
  · exact fun h => ⟨op.phase, List.mem_range.2 op.action.phase_lt, h⟩

/-- All operations of earlier phases stand before an operation of a script. -/
theorem filter_take_script {k : Nat} {op : Operation} (hk : (spec.script target)[k]? = some op)
    {selects : Operation → Bool} (earlier : ∀ other, selects other = true → other.phase < op.phase) :
    ((spec.script target).take k).filter selects = (spec.script target).filter selects := by
  have ordered := pairwise_phase_script spec target
  generalize spec.script target = ops at hk ordered
  obtain ⟨hlt, rfl⟩ := List.getElem?_eq_some_iff.1 hk
  -- the rest of the script, from the operation on, has nothing that is selected
  have later : ∀ other ∈ ops.drop k, ops[k].phase ≤ other.phase := by
    rw [← List.take_append_drop k ops, List.pairwise_append, List.drop_eq_getElem_cons hlt,
      List.pairwise_cons] at ordered
    rw [List.drop_eq_getElem_cons hlt, List.forall_mem_cons]
    exact ⟨Nat.le_refl _, ordered.2.1.1⟩
  have none : (ops.drop k).filter selects = [] :=
    List.filter_eq_nil_iff.2 fun other ho hs => absurd (earlier other hs) (Nat.not_lt.2 (later other ho))
  conv => rhs; rw [← List.take_append_drop k ops, List.filter_append, none, List.append_nil]

/-! ### Contents -/

/-- The operations of a phase make each element of a list under its name, and no other operations name anything in the
same way. -/
structure MakesNamed {α : Type} (spec : Specification) (target : String) (n : Nat) (key : Operation → Option String)
    (xs : List α) (make : α → Operation) (name : α → String) : Prop where
  lt : n < 9
  phase : ∀ op key', key op = some key' → op.phase = n
  made : spec.phaseOperations target n = xs.map make
  named : ∀ x, key (make x) = some (name x)

theorem makesNamed_vars (spec : Specification) (target : String) :
    spec.MakesNamed target 2 Operation.declaredVariable? spec.vars
    (fun v => .declareVariable v.name v.pinType v.default) Variable.name where
  lt := by decide
  phase _ _ := Operation.phase_of_declaredVariable?
  made := rfl
  named _ := rfl

theorem makesNamed_nodes (spec : Specification) (target : String) :
    spec.MakesNamed target 5 Operation.placedNode? spec.nodes Node.placement Node.id where
  lt := by decide
  phase _ _ := Operation.phase_of_placedNode?
  made := rfl
  named := Node.placedNode?_placement

namespace MakesNamed

variable {α : Type} {n : Nat} {key : Operation → Option String} {xs : List α} {make : α → Operation} {name : α → String}

/-- A script names the elements in their order. -/
theorem filterMap_script (h : spec.MakesNamed target n key xs make name) :
    (spec.script target).filterMap key = xs.map name := by
  have keyed (ops : List Operation) : ops.filterMap key = (ops.filter fun op => (key op).isSome).filterMap key := by
    rw [List.filterMap_filter]
    refine List.filterMap_congr fun op _ => ?_
    cases key op <;> rfl
  have one : ∀ op, (key op).isSome = true → op.phase = n := by
    intro op hs
    obtain ⟨x, hx⟩ := Option.isSome_iff_exists.1 hs
    exact h.phase op x hx
  rw [keyed, filter_script h.lt one, ← keyed, h.made, List.filterMap_map]
  simp only [Function.comp_def, h.named, List.filterMap_eq_map']

/-- The operations of a script under a name make the elements of the name. -/
theorem filter_script (h : spec.MakesNamed target n key xs make name) (k : String) :
    (spec.script target).filter (fun op => key op == some k) = (xs.filter fun x => name x == k).map make := by
  rw [Specification.filter_script h.lt fun op hk => h.phase op k (beq_iff_eq.1 hk), h.made, List.filter_map]
  simp only [Function.comp_def, h.named]
  rfl

/-- Every element is made in a script. -/
theorem mem_script (h : spec.MakesNamed target n key xs make name) {x : α} (hx : x ∈ xs) :
    make x ∈ spec.script target := by
  rw [mem_script_iff, h.phase _ _ (h.named x), h.made]
  exact List.mem_map_of_mem hx

end MakesNamed

theorem filter_setInput?_script (input : String × String) :
    (spec.script target).filter (fun op => op.setInput? == some input) =
      spec.nodes.flatMap fun node => node.settings.filter fun op => op.setInput? == some input := by
  rw [filter_script (n := 6) (by decide) fun op h => Operation.phase_of_setInput? (beq_iff_eq.1 h)]
  rw [phaseOperations, List.filter_flatMap]

end Specification

end AudioGraph
