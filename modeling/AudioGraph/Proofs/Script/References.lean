import AudioGraph.Proofs.Diagnosis.WellFormed
import AudioGraph.Proofs.Script.Order

/-!
# References in scripts

Operations refer to variables, nodes and boundary pins.  In the script of a well-formed specification every operation
finds what it refers to among the operations before it (`Operation.Resolved`), although a script is written without a
look at the catalogue.

* (placements) What a kind of nodes gives and takes is what the operation that places them has
  (`hasOutput_placement`, `hasInput_placement`).
* (one of each) A script declares a variable once, places a node once, and sets an input at most once.
-/

namespace AudioGraph

namespace Operation

/-- The operation places a node from which a pin of a name can be read: one of a type with such an output, or one that
reads a variable, under whatever name. -/
def HasOutput (catalogue : Catalogue) (pin : String) : Operation → Prop
  | placeNode _ typeName _ => ∃ signature, catalogue.nodeType? typeName = some signature ∧
      ∃ output ∈ signature.outputs, output.name = pin
  | placeVariableRead .. => True
  | _ => False

/-- The operation places a node with an input of a name: one of a type with such an input, or one that writes a
variable. -/
def HasInput (catalogue : Catalogue) (pin : String) : Operation → Prop
  | placeNode _ typeName _ => ∃ signature, catalogue.nodeType? typeName = some signature ∧
      ∃ input ∈ signature.inputs, input.name = pin
  | placeVariableWrite .. => pin = valuePin ∨ pin = executePin
  | _ => False

/-- Exactly one operation places a node of an id, and this operation has a property. -/
def PlacedOnce (ops : List Operation) (id : String) (P : Operation → Prop) : Prop :=
  ∃ placement, ops.filter (fun op => op.placedNode? == some id) = [placement] ∧ P placement

/-- The pin from which a connection starts is there. -/
def SourceReady (catalogue : Catalogue) (earlier : List Operation) (pin : String) : Endpoint → Prop
  | .boundary => ∃ pinType default, .declareGraphInput pin pinType default ∈ earlier
  | .node id => PlacedOnce earlier id (HasOutput catalogue pin)

/-- The pin at which a connection ends is there. -/
def DestinationReady (catalogue : Catalogue) (earlier : List Operation) (pin : String) : Endpoint → Prop
  | .boundary => ∃ pinType, .declareGraphOutput pin pinType ∈ earlier
  | .node id => PlacedOnce earlier id (HasInput catalogue pin)

/-- What an operation of a script refers to is made by the operations before it, and made once.  No other operation of
the script sets the input that it sets. -/
def Resolved (catalogue : Catalogue) (script earlier : List Operation) : Operation → Prop
  | placeVariableRead _ name _ | placeVariableWrite _ name =>
    ∃ pinType default,
      earlier.filter (fun op => op.declaredVariable? == some name) = [.declareVariable name pinType default]
  | setDefault id input value =>
    PlacedOnce earlier id (fun placement => placement.action = .placeNode ∧ placement.HasInput catalogue input) ∧
      script.filter (fun op => op.setInput? == some (id, input)) = [.setDefault id input value]
  | connect c =>
    SourceReady catalogue earlier c.sourcePin c.source ∧
      DestinationReady catalogue earlier c.destinationPin c.destination
  | _ => True

/-- The variable that a placed node reads or writes. -/
def accessed? : Operation → Option String
  | placeVariableRead _ name _ | placeVariableWrite _ name => some name
  | _ => none

end Operation

open Operation (PlacedOnce)

/-! ### Placements -/

theorem Node.accessed?_placement (node : Node) : node.placement.accessed? = node.kind.accessed? := by
  unfold placement
  cases node.kind <;> rfl

namespace Specification

variable {spec : Specification} {catalogue : Catalogue} {target : String}

theorem KindGives.hasOutput_placement {node : Node} {pin pinType : String}
    (h : spec.KindGives catalogue node.kind pin pinType) : node.placement.HasOutput catalogue pin := by
  unfold Node.placement
  generalize node.kind = kind at h
  cases h with
  | external hs ho => exact ⟨_, hs, _, ho.mem, ho.name_eq⟩
  | read _ => trivial
  | delayedRead _ => trivial

theorem KindTakes.hasInput_placement {node : Node} {pin pinType : String}
    (h : spec.KindTakes catalogue node.kind pin pinType) : node.placement.HasInput catalogue pin := by
  unfold Node.placement
  generalize node.kind = kind at h
  cases h with
  | external hs hi => exact ⟨_, hs, _, hi.mem, hi.name_eq⟩
  | value _ => exact Or.inl rfl
  | execute => exact Or.inr rfl

theorem KindKnown.variable {kind : NodeKind} (h : spec.KindKnown catalogue kind) {name : String}
    (ha : kind.accessed? = some name) : ∃ v ∈ spec.vars, v.name = name := by
  cases kind with
  | external => cases ha
  | read other => exact Option.some.inj ha ▸ h
  | delayedRead other => exact Option.some.inj ha ▸ h
  | write other => exact Option.some.inj ha ▸ h

/-- A node that is not one to read or write a variable is of a type of the catalogue. -/
theorem KindKnown.hasSignature {node : Node} (h : spec.KindKnown catalogue node.kind)
    (external : node.kind.isAccessor = false) :
    ∃ signature, node.HasSignature catalogue signature := by
  unfold Node.HasSignature
  generalize node.kind = kind at h external
  cases kind with
  | external typeName =>
    obtain ⟨signature, hs⟩ := h
    exact ⟨signature, typeName, rfl, hs⟩
  | _ => cases external

/-! ### One of each -/

/-- Distinct nodes are placed once each. -/
theorem placedOnce_script (ids : (spec.nodes.map Node.id).Nodup) {node : Node} (hn : node ∈ spec.nodes)
    {P : Operation → Prop} (hP : P node.placement) : PlacedOnce (spec.script target) node.id P := by
  refine ⟨node.placement, ?_, hP⟩
  rw [(makesNamed_nodes spec target).filter_script, filter_name_eq_singleton ids hn, List.map_singleton]

/-- An input is set once if nodes are distinct. -/
theorem filter_setInput?_of_mem (ids : (spec.nodes.map Node.id).Nodup) {node : Node} (hn : node ∈ spec.nodes)
    (external : node.kind.isAccessor = false) {entry : String × Json} (he : entry ∈ node.defaults.entries) :
    (spec.script target).filter (fun op => op.setInput? == some (node.id, entry.1)) =
      [.setDefault node.id entry.1 entry.2] := by
  -- other nodes set inputs of their own, and the table of the node names each input once
  have others : ∀ other ∈ spec.nodes, other.id ≠ node.id →
      other.settings.filter (fun op => op.setInput? == some (node.id, entry.1)) = [] := by
    intro other _ hne
    refine List.filter_eq_nil_iff.2 fun op ho hs => hne ?_
    obtain ⟨-, _, -, rfl⟩ := Node.mem_settings_iff.1 ho
    exact (Prod.mk.inj (Option.some.inj (beq_iff_eq.1 hs))).1
  rw [filter_setInput?_script, flatMap_eq_of_nodup ids hn others, Node.settings, if_neg (by simp [external]),
    List.filter_map]
  have one : (node.defaults.entries.filter fun other => other.1 == entry.1) = [entry] :=
    filter_name_eq_singleton node.defaults.distinct he
  have same : ((fun op : Operation => op.setInput? == some (node.id, entry.1)) ∘
      fun entry => .setDefault node.id entry.1 entry.2) = fun other : String × Json => other.1 == entry.1 := by
    funext other
    simp [Operation.setInput?]
  rw [same, one, List.map_singleton]

/-! ### Prefixes -/

/-- An operation of an earlier phase stands before an operation of a script. -/
theorem mem_take_script {k : Nat} {op other : Operation} (hk : (spec.script target)[k]? = some op)
    (hm : other ∈ spec.script target) (earlier : other.phase < op.phase) : other ∈ (spec.script target).take k := by
  have same : ((spec.script target).take k).filter (fun x => x == other) =
      (spec.script target).filter fun x => x == other :=
    filter_take_script hk fun x hx => by rwa [beq_iff_eq.1 hx]
  have hf : other ∈ (spec.script target).filter fun x => x == other := List.mem_filter.2 ⟨hm, beq_self_eq_true _⟩
  rw [← same] at hf
  exact List.mem_of_mem_filter hf

theorem placedOnce_take {k : Nat} {op : Operation} (hk : (spec.script target)[k]? = some op) (later : 5 < op.phase)
    {id : String} {P : Operation → Prop} (h : PlacedOnce (spec.script target) id P) :
    PlacedOnce ((spec.script target).take k) id P := by
  obtain ⟨placement, one, hP⟩ := h
  refine ⟨placement, ?_, hP⟩
  rw [filter_take_script hk, one]
  intro other ho
  rwa [Operation.phase_of_placedNode? (beq_iff_eq.1 ho)]

/-! ### Resolution -/

theorem Gives.sourceReady (ids : (spec.nodes.map Node.id).Nodup) {k : Nat} {c : Connection}
    (hk : (spec.script target)[k]? = some (.connect c)) {endpoint : Endpoint} {pin pinType : String}
    (gives : spec.Gives catalogue endpoint pin pinType) :
    Operation.SourceReady catalogue ((spec.script target).take k) pin endpoint := by
  cases gives with
  | @boundary _ input hi =>
    have declared : .declareGraphInput input.name input.pinType input.default ∈ spec.script target :=
      mem_script_iff.2 (List.mem_map.2 ⟨input, hi.mem, rfl⟩)
    exact ⟨_, _, hi.name_eq ▸ mem_take_script hk declared (show 3 < 7 by decide)⟩
  | node hn h => exact placedOnce_take hk (show 5 < 7 by decide) (placedOnce_script ids hn h.hasOutput_placement)

theorem Takes.destinationReady (ids : (spec.nodes.map Node.id).Nodup) {k : Nat} {c : Connection}
    (hk : (spec.script target)[k]? = some (.connect c)) {endpoint : Endpoint} {pin pinType : String}
    (takes : spec.Takes catalogue endpoint pin pinType) :
    Operation.DestinationReady catalogue ((spec.script target).take k) pin endpoint := by
  cases takes with
  | @boundary _ output ho =>
    have declared : .declareGraphOutput output.name output.pinType ∈ spec.script target :=
      mem_script_iff.2 (List.mem_map.2 ⟨output, ho.mem, rfl⟩)
    exact ⟨_, ho.name_eq ▸ mem_take_script hk declared (show 4 < 7 by decide)⟩
  | node hn h => exact placedOnce_take hk (show 5 < 7 by decide) (placedOnce_script ids hn h.hasInput_placement)

/-- A placed node that reads or writes a variable stands behind the one declaration of the variable. -/
theorem WellFormed.declared_of_accessed? (h : spec.WellFormed catalogue) {k : Nat} {op : Operation}
    (hk : (spec.script target)[k]? = some op) {name : String} (ha : op.accessed? = some name) (placed : op.phase = 5) :
    ∃ pinType default, ((spec.script target).take k).filter (fun op => op.declaredVariable? == some name) =
      [.declareVariable name pinType default] := by
  have hm := mem_script_iff.1 (List.mem_of_getElem? hk)
  rw [placed] at hm
  obtain ⟨node, hn, rfl⟩ := List.mem_map.1 hm
  rw [Node.accessed?_placement] at ha
  obtain ⟨v, hv, rfl⟩ := (h.nodeKinds node hn).variable ha
  have earlier : ∀ other : Operation, (other.declaredVariable? == some v.name) = true →
      other.phase < node.placement.phase := by
    intro other ho
    rw [Operation.phase_of_declaredVariable? (beq_iff_eq.1 ho), node.phase_placement]
    decide
  refine ⟨v.pinType, v.default, ?_⟩
  rw [filter_take_script hk earlier, (makesNamed_vars spec target).filter_script,
    filter_name_eq_singleton h.variableNames hv, List.map_singleton]

/-- Every operation of the script of a well-formed specification finds what it refers to. -/
theorem WellFormed.resolved (h : spec.WellFormed catalogue) {k : Nat} {op : Operation}
    (hk : (spec.script target)[k]? = some op) :
    op.Resolved catalogue (spec.script target) ((spec.script target).take k) := by
  have hm := mem_script_iff.1 (List.mem_of_getElem? hk)
  cases op with
  | placeVariableRead id name delayed => exact h.declared_of_accessed? hk rfl rfl
  | placeVariableWrite id name => exact h.declared_of_accessed? hk rfl rfl
  | setDefault id input value =>
    obtain ⟨node, hn, ho⟩ := List.mem_flatMap.1 hm
    obtain ⟨external, entry, he, same⟩ := Node.mem_settings_iff.1 ho
    obtain ⟨rfl, rfl, rfl⟩ := Operation.setDefault.inj same
    obtain ⟨signature, typeName, hkind, hs⟩ := (h.nodeKinds node hn).hasSignature external
    have named : entry.1 ∈ node.defaults.names := List.mem_map.2 ⟨entry, he, rfl⟩
    obtain ⟨pin, hp, hname⟩ := h.defaults node hn signature ⟨typeName, hkind, hs⟩ entry.1 named
    refine ⟨placedOnce_take hk (show 5 < 6 by decide) (placedOnce_script h.nodeIds hn ?_),
      filter_setInput?_of_mem h.nodeIds hn external he⟩
    rw [Node.placement, hkind]
    exact ⟨rfl, signature, hs, pin, hp, hname⟩
  | connect c =>
    obtain ⟨other, hc, same⟩ := List.mem_map.1 hm
    obtain rfl := Operation.connect.inj same
    obtain ⟨sourceType, destinationType, gives, takes, -⟩ := h.connections other hc
    exact ⟨gives.sourceReady h.nodeIds hk, takes.destinationReady h.nodeIds hk⟩
  | _ => trivial

/-- Only well-formed specifications are built, and what is built is their script. -/
theorem build_eq_ok_iff {script : List Operation} :
    spec.build catalogue target = .ok script ↔ spec.WellFormed catalogue ∧ script = spec.script target := by
  rw [← violations_eq_nil_iff, build, validate]
  cases spec.violations catalogue with
  | nil => simp [eq_comm]
  | cons v rest => simp

/-- In the script that is built for a specification, every operation finds what it refers to among the operations before
it. -/
theorem resolved_of_build (spec : Specification) (catalogue : Catalogue) (target : String) (script : List Operation)
    (built : spec.build catalogue target = .ok script) :
    ∀ (k : Nat) (op : Operation), script[k]? = some op → op.Resolved catalogue script (script.take k) := by
  obtain ⟨wellFormed, rfl⟩ := build_eq_ok_iff.1 built
  exact fun k op hk => wellFormed.resolved hk

/-- The connection from the variable of the tone to its filter comes after both nodes. -/
theorem resolved_connect_tone :
    tone.build .builtIn "/Game/" = .ok (tone.script "/Game/") ∧
      (tone.script "/Game/")[12]? = some (.connect ⟨.node "get", "Value", .node "filter", "Cutoff Frequency"⟩) ∧
      (Operation.connect ⟨.node "get", "Value", .node "filter", "Cutoff Frequency"⟩).Resolved .builtIn
        (tone.script "/Game/") ((tone.script "/Game/").take 12) := by
  have built : tone.build .builtIn "/Game/" = .ok (tone.script "/Game/") := build_eq_ok_iff.2 ⟨wellFormed_tone, rfl⟩
  have found : (tone.script "/Game/")[12]? =
      some (.connect ⟨.node "get", "Value", .node "filter", "Cutoff Frequency"⟩) := by
    rfl
  exact ⟨built, found, resolved_of_build tone .builtIn "/Game/" _ built 12 _ found⟩

end Specification

end AudioGraph
