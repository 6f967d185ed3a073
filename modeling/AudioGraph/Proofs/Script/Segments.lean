import AudioGraph.Script.Document
import AudioGraph.Proofs.Script.Content

/-!
# The segments of a script

A script is nine segments, one for each phase, and what an engine can select by the name of an action is one of them:
all interfaces in their order, all variables, and so on.  This holds of every specification, accepted or not.

* (selection) An action other than one that places nodes selects what is of its phase (`named_eq_filter_phase`), and
  the operations that place nodes are those of phase five (`filter_isPlacement`).
* (order) Two lists in which the phase never decreases are equal if they have the same operations of each phase
  (`eq_of_filter_phase_eq`).
* (segments) So the segments tell the whole script: it is the only list of operations that has them
  (`eq_script_iff_segmented`).
-/

namespace AudioGraph

/-! ### Selection -/

theorem Action.eq_of_name_eq {a b : Action} (h : a.name = b.name) : a = b := by
  rw [← word_eq_name, ← word_eq_name] at h
  have found := congrArg Action.ofWord? h
  rwa [ofWord?_word, ofWord?_word, Option.some.injEq] at found

/-- But for those that place nodes, an action has a phase of its own. -/
theorem Action.eq_of_phase_eq {a b : Action} (h : a.phase = b.phase) (single : b.phase ≠ 5) : a = b := by
  cases a <;> cases b <;> first | rfl | simp [phase] at h single

namespace Operation

/-- The operations whose action has a name. -/
def named (name : String) (ops : List Operation) : List Operation := ops.filter fun op => op.action.name == name

theorem named_eq_filter_phase {action : Action} (single : action.phase ≠ 5) (ops : List Operation) :
    named action.name ops = ops.filter fun op => op.phase == action.phase := by
  apply List.filter_congr
  intro op _
  rw [Bool.eq_iff_iff, beq_iff_eq, beq_iff_eq]
  constructor
  · intro h
    exact congrArg Action.phase (Action.eq_of_name_eq h)
  · intro h
    exact congrArg Action.name (Action.eq_of_phase_eq h single)

theorem filter_isPlacement (ops : List Operation) : ops.filter isPlacement = ops.filter fun op => op.phase == 5 := by
  apply List.filter_congr
  intro op _
  cases op <;> rfl

/-! ### Order -/

private theorem phase_le_of_mem_filter {a : Operation} {xs ys : List Operation} (ordered : (a :: xs).Pairwise
    fun op other => op.phase ≤ other.phase) (h : ∀ n, ys.filter (fun op => op.phase == n) =
      (a :: xs).filter fun op => op.phase == n) : ∀ b ∈ ys, a.phase ≤ b.phase := by
  intro b hb
  have hm : b ∈ (a :: xs).filter fun op => op.phase == b.phase := by
    rw [← h]
    exact List.mem_filter.2 ⟨hb, beq_self_eq_true _⟩
  rcases List.mem_cons.1 (List.mem_of_mem_filter hm) with rfl | hm
  · exact Nat.le_refl _
  · exact (List.pairwise_cons.1 ordered).1 b hm

/-- Lists in which the phase never decreases are told by their operations of each phase. -/
theorem eq_of_filter_phase_eq {xs ys : List Operation} (hx : xs.Pairwise fun op other => op.phase ≤ other.phase)
    (hy : ys.Pairwise fun op other => op.phase ≤ other.phase)
    (h : ∀ n, xs.filter (fun op => op.phase == n) = ys.filter fun op => op.phase == n) : xs = ys := by
  -- by induction on both lists: their first operations are of the least phase, and the first of this phase
  induction xs generalizing ys with
  | nil =>
    cases ys with
    | nil => rfl
    | cons b ys =>
      have hb := h b.phase
      simp at hb
  | cons a xs ih =>
    cases ys with
    | nil =>
      have ha := h a.phase
      simp at ha
    | cons b ys =>
      have hab := phase_le_of_mem_filter hx (fun n => (h n).symm) b List.mem_cons_self
      have hba := phase_le_of_mem_filter hy h a List.mem_cons_self
      have same : a.phase = b.phase := Nat.le_antisymm hab hba
      have first := h a.phase
      simp only [List.filter_cons, same, beq_self_eq_true, ↓reduceIte, List.cons.injEq] at first
      obtain ⟨rfl, -⟩ := first
      congr 1
      apply ih (List.pairwise_cons.1 hx).2 (List.pairwise_cons.1 hy).2
      intro n
      have hn := h n
      simp only [List.filter_cons] at hn
      by_cases hp : a.phase == n
      · simpa [hp] using hn
      · simpa [hp] using hn

end Operation

/-! ### Segments -/

namespace Specification

/-- The literal values of all nodes that do not read or write a variable, with their nodes. -/
def literalValues (spec : Specification) : List (Node × String × Json) :=
  (spec.nodes.filter fun node => !node.kind.isAccessor).flatMap fun node =>
    node.defaults.entries.map fun entry => (node, entry)

theorem flatMap_settings (spec : Specification) :
    spec.nodes.flatMap Node.settings = spec.literalValues.map fun value => .setDefault value.1.id value.2.1 value.2.2 := by
  unfold literalValues
  induction spec.nodes with
  | nil => rfl
  | cons node rest ih =>
    rw [List.flatMap_cons, ih, Node.settings]
    by_cases accessor : node.kind.isAccessor
    · simp [accessor]
    · simp [accessor, Function.comp_def]

/-- A list of operations starts a graph and stores it, once each, has the operations of all other phases in their
order between, and these are made of the lists of a specification. -/
structure Segmented (spec : Specification) (target : String) (ops : List Operation) : Prop where
  head : ops.head? = some (.beginGraph spec.assetType spec.name)
  begins : Operation.named "begin_graph" ops = [.beginGraph spec.assetType spec.name]
  last : ops.getLast? = some (.finalize spec.name target)
  ends : Operation.named "finalize" ops = [.finalize spec.name target]
  ordered : ops.Pairwise fun op other => op.phase ≤ other.phase
  interfaces : Operation.named "attach_interface" ops = spec.interfaces.map .attachInterface
  vars : Operation.named "declare_variable" ops = spec.vars.map fun v => .declareVariable v.name v.pinType v.default
  inputs : Operation.named "declare_graph_input" ops =
    spec.inputs.map fun pin => .declareGraphInput pin.name pin.pinType pin.default
  outputs : Operation.named "declare_graph_output" ops =
    spec.outputs.map fun pin => .declareGraphOutput pin.name pin.pinType
  nodes : ops.filter Operation.isPlacement = spec.nodes.map Node.placement
  literalValues : Operation.named "set_default" ops =
    spec.literalValues.map fun value => .setDefault value.1.id value.2.1 value.2.2
  connections : Operation.named "connect" ops = spec.connections.map .connect
  length : ops.length = 2 + spec.interfaces.length + spec.vars.length + spec.inputs.length + spec.outputs.length +
    spec.nodes.length + spec.literalValues.length + spec.connections.length

variable {spec : Specification} {target : String}

private theorem named_script (action : Action) (single : action.phase ≠ 5) :
    Operation.named action.name (spec.script target) = spec.phaseOperations target action.phase := by
  rw [Operation.named_eq_filter_phase single, filter_phase_script action.phase_lt]

theorem segmented_script (spec : Specification) (target : String) : spec.Segmented target (spec.script target) where
  head := rfl
  begins := named_script .beginGraph (by decide)
  last := List.getLast?_concat
  ends := named_script .finalize (by decide)
  ordered := pairwise_phase_script spec target
  interfaces := named_script .attachInterface (by decide)
  vars := named_script .declareVariable (by decide)
  inputs := named_script .declareGraphInput (by decide)
  outputs := named_script .declareGraphOutput (by decide)
  nodes := by
    rw [Operation.filter_isPlacement, filter_phase_script (by decide), phaseOperations]
  literalValues := by
    rw [← flatMap_settings]
    exact named_script .setDefault (by decide)
  connections := named_script .connect (by decide)
  length := by
    simp only [script, flatMap_settings, List.length_append, List.length_map, List.length_singleton]
    omega

/-- What is of a phase in a list with the segments of a specification is what the phase is made of. -/
private theorem Segmented.filter_phase {ops : List Operation} (h : spec.Segmented target ops) (n : Nat) :
    ops.filter (fun op => op.phase == n) = spec.phaseOperations target n := by
  have select (action : Action) (single : action.phase ≠ 5) {segment : List Operation}
      (hs : Operation.named action.name ops = segment) : ops.filter (fun op => op.phase == action.phase) = segment :=
    (Operation.named_eq_filter_phase single ops).symm.trans hs
  match n with
  | 0 => exact select .beginGraph (by decide) h.begins
  | 1 => exact select .attachInterface (by decide) h.interfaces
  | 2 => exact select .declareVariable (by decide) h.vars
  | 3 => exact select .declareGraphInput (by decide) h.inputs
  | 4 => exact select .declareGraphOutput (by decide) h.outputs
  | 5 => exact (Operation.filter_isPlacement ops).symm.trans h.nodes
  | 6 =>
    rw [phaseOperations, flatMap_settings]
    exact select .setDefault (by decide) h.literalValues
  | 7 => exact select .connect (by decide) h.connections
  | 8 => exact select .finalize (by decide) h.ends
  | n + 9 =>
    apply List.filter_eq_nil_iff.2
    intro op _ hp
    have lt := op.action.phase_lt
    have eq : op.action.phase = n + 9 := beq_iff_eq.1 hp
    omega

/-- The script of a specification has these segments, and it is the only list of operations that has them. -/
theorem eq_script_iff_segmented (spec : Specification) (target : String) (ops : List Operation) :
    ops = spec.script target ↔ spec.Segmented target ops := by
  constructor
  · rintro rfl
    exact segmented_script spec target
  · intro h
    apply Operation.eq_of_filter_phase_eq h.ordered (pairwise_phase_script spec target)
    intro n
    rw [h.filter_phase, (segmented_script spec target).filter_phase]

end Specification

end AudioGraph
