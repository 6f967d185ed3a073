import AudioGraph.Specification.Edit
import AudioGraph.Proofs.Diagnosis.AddedConnection

/-!
# What a literal value changes

A literal value is given to one node, and only this node is reported differently.  If the value is for one of its
inputs, the input is no longer reported as unfed; other nodes of the same id are reported as before.  If it is for none
of its inputs, it is reported itself, behind the other literal values of the node.  Nodes that read or write variables,
nodes of unknown types, and pins that have a value already give rise to no change at all.

* (nodes) What is found, and whether nodes are known, does not depend on more of the nodes than their ids and kinds
  (`samePins_of_map_bare`, `nodeViolations_of_map_bare`).
* (one node) A literal value adds at most one violation, and takes away those of its pin
  (`unknownDefaults_withDefault`, `unfedInputs_withDefault`).
* (diagnoses) A diagnosis is changed in two places, where the node is (`violations_modifyNode`).
-/

namespace AudioGraph

theorem Catalogue.signature?_eq_none_iff {catalogue : Catalogue} {node : Node} :
    catalogue.signature? node = none ↔
      node.kind.isAccessor = true ∨
        ∃ typeName, node.kind = .external typeName ∧ catalogue.nodeType? typeName = none := by
  unfold signature?
  cases node.kind <;> simp [NodeKind.isAccessor, NodeKind.accessed?]

namespace Node

variable {node : Node} {catalogue : Catalogue} {signature : NodeSignature} {pin : String} {value : Json}
  {fed : String → Bool}

/-! ### One node -/

theorem names_withDefault (node : Node) (pin : String) (value : Json) :
    (node.withDefault pin value).defaults.names =
      if pin ∈ node.defaults.names then node.defaults.names else node.defaults.names ++ [pin] :=
  Entries.names_put pin value node.defaults.entries

theorem isSome_get?_withDefault (node : Node) (pin : String) (value : Json) (other : String) :
    ((node.withDefault pin value).defaults.get? other).isSome =
      (decide (pin = other) || (node.defaults.get? other).isSome) := by
  rw [withDefault, Table.get?_put]
  by_cases h : pin = other <;> simp [h]

theorem unknownDefaults_withDefault_of_mem (there : pin ∈ node.defaults.names) :
    (node.withDefault pin value).unknownDefaults catalogue = node.unknownDefaults catalogue := by
  have names : (node.withDefault pin value).defaults.names = node.defaults.names := by
    rw [names_withDefault, if_pos there]
  unfold unknownDefaults
  rw [names]
  rfl

theorem unknownDefaults_withDefault (known : catalogue.signature? node = some signature)
    (new : pin ∉ node.defaults.names) :
    (node.withDefault pin value).unknownDefaults catalogue =
      node.unknownDefaults catalogue ++
        if (signature.input? pin).isSome then [] else [.unknownDefault node.id node.kind.typeName pin] := by
  have known' : catalogue.signature? (node.withDefault pin value) = some signature := known
  have names : (node.withDefault pin value).defaults.names = node.defaults.names ++ [pin] := by
    rw [names_withDefault, if_neg new]
  rw [unknownDefaults, unknownDefaults, known, known', names]
  dsimp only
  rw [List.filter_append, List.map_append]
  cases h : signature.input? pin <;> simp [h, withDefault]

/-- A literal value takes away the violations of its pin. -/
theorem unfedInputs_withDefault (node : Node) (catalogue : Catalogue) (fed : String → Bool) (pin : String)
    (value : Json) :
    (node.withDefault pin value).unfedInputs catalogue fed =
      (node.unfedInputs catalogue fed).filter (· ≠ .unfedInput node.id node.kind.typeName pin) := by
  have same : catalogue.signature? (node.withDefault pin value) = catalogue.signature? node := rfl
  rw [unfedInputs, unfedInputs, same]
  cases catalogue.signature? node with
  | none => rfl
  | some signature =>
    simp only [isSome_get?_withDefault]
    rw [List.filter_map, List.filter_filter]
    refine congrArg _ (List.filter_congr fun input _ => ?_)
    by_cases h : pin = input.name
    · simp [h]
    · have other : ¬input.name = pin := fun same => h same.symm
      simp [h, other]

theorem unfedInput_notMem_of_mem (there : pin ∈ node.defaults.names) {typeName : String} :
    .unfedInput node.id typeName pin ∉ node.unfedInputs catalogue fed := by
  intro h
  unfold unfedInputs at h
  split at h
  · cases h
  · obtain ⟨input, hi, same⟩ := List.mem_map.1 h
    injection same with _ _ name
    have given : (node.defaults.get? input.name).isSome = true := Table.isSome_get?_iff.2 (name ▸ there)
    have unset := (List.mem_filter.1 hi).2
    simp only [given, Bool.not_true, Bool.and_false, Bool.false_and, Bool.false_eq_true] at unset

theorem unfedInput_notMem_of_unnamed (known : catalogue.signature? node = some signature)
    (unnamed : ∀ input ∈ signature.inputs, input.name ≠ pin) {typeName : String} :
    .unfedInput node.id typeName pin ∉ node.unfedInputs catalogue fed := by
  intro h
  rw [unfedInputs, known] at h
  obtain ⟨input, hi, same⟩ := List.mem_map.1 h
  injection same with _ _ name
  exact unnamed input (List.mem_filter.1 hi).1 name

end Node

namespace Specification

variable {spec : Specification} {catalogue : Catalogue} {node : Node}

/-! ### All nodes -/

/-- What is found depends on no more of the nodes than their ids and kinds. -/
theorem samePins_of_map_bare {nodes : List Node} (same : nodes.map Node.bare = spec.nodes.map Node.bare) :
    SamePins { spec with nodes := nodes } spec := by
  refine ⟨fun _ => rfl, fun _ => rfl, fun _ => rfl, fun id => ?_⟩
  rw [map_kind_findNode?, map_kind_findNode?, same]

theorem nodeViolations_of_map_bare {nodes : List Node} (same : nodes.map Node.bare = spec.nodes.map Node.bare) :
    nodeViolations { spec with nodes := nodes } catalogue = spec.nodeViolations catalogue := by
  have bare (s : Specification) : s.nodeViolations catalogue =
      (markRepeats Node.id (s.nodes.map Node.bare)).flatMap fun m =>
        Violation.ifNot (!m.2) (.duplicateNode m.1.id) ++ s.nodeKindViolations catalogue m.1 := by
    rw [markRepeats_map_of_named Node.id Node.bare (fun _ => rfl), List.flatMap_map]
    rfl
  rw [bare, bare, same]
  rfl

/-! ### One of the nodes -/

section Modify

variable {change : Node → Node} (keeps : ∀ node, (change node).bare = node.bare) {index : Nat}

include keeps

theorem map_bare_modify (nodes : List Node) (index : Nat) :
    (nodes.modify index change).map Node.bare = nodes.map Node.bare := by
  induction nodes generalizing index with
  | nil => rw [List.modify_nil]
  | cons node rest ih =>
    cases index with
    | zero => rw [List.modify_zero_cons, List.map_cons, List.map_cons, keeps]
    | succ index => rw [List.modify_succ_cons, List.map_cons, List.map_cons, ih]

theorem samePins_modifyNode : (spec.modifyNode index change).SamePins spec :=
  samePins_of_map_bare (map_bare_modify keeps spec.nodes index)

theorem unfedInputs_modifyNode :
    (spec.modifyNode index change).unfedInputs catalogue = spec.unfedInputs catalogue := by
  funext node
  have fed : (PinResolver.new (spec.modifyNode index change) catalogue).feeds =
      (PinResolver.new spec catalogue).feeds := by
    funext connections id pin
    rw [← PinResolver.contains_fedPins, ← PinResolver.contains_fedPins,
      PinResolver.fedPins_congr (samePins_modifyNode keeps)]
  rw [unfedInputs, unfedInputs, fed]
  rfl

/-- If a node keeps its id and its kind, a diagnosis is changed in two places: where the literal values of the node are
reported, and where its required inputs are. -/
theorem violations_modifyNode (at_index : spec.nodes[index]? = some node) :
    (spec.modifyNode index change).violations catalogue =
      spec.violationsBefore catalogue 5 ++
        (((spec.nodes.take index).flatMap fun other => Node.unknownDefaults other catalogue) ++
          ((change node).unknownDefaults catalogue ++
            (spec.nodes.drop (index + 1)).flatMap fun other => Node.unknownDefaults other catalogue)) ++
        ((spec.nodes.take index).flatMap (spec.unfedInputs catalogue) ++
          (spec.unfedInputs catalogue (change node) ++
            (spec.nodes.drop (index + 1)).flatMap (spec.unfedInputs catalogue))) ++
        spec.violationsFrom catalogue 7 := by
  have kept (n : Nat) (lists : (spec.modifyNode index change).SameLists spec n) :
      (spec.modifyNode index change).stageViolations catalogue n = spec.stageViolations catalogue n :=
    stageViolations_congr (samePins_modifyNode keeps) lists
  have nodes : (spec.modifyNode index change).stageViolations catalogue 3 = spec.stageViolations catalogue 3 :=
    nodeViolations_of_map_bare (map_bare_modify keeps spec.nodes index)
  obtain ⟨lt, rfl⟩ := List.getElem?_eq_some_iff.1 at_index
  have cut : (spec.modifyNode index change).nodes =
      spec.nodes.take index ++ change spec.nodes[index] :: spec.nodes.drop (index + 1) :=
    List.modify_eq_take_cons_drop lt
  rw [violations_eq_append, kept 0 rfl, kept 1 rfl, kept 2 rfl, nodes, kept 4 rfl, kept 7 rfl,
    ← violationsBefore_five, ← violationsFrom_seven,
    stageViolations_five_eq_flatMap, stageViolations_six_eq_flatMap, unfedInputs_modifyNode keeps, cut,
    List.flatMap_append, List.flatMap_append, List.flatMap_cons, List.flatMap_cons]

end Modify

/-! ### A literal value -/

variable {signature : NodeSignature} {pin : String} {value : Json}

theorem unfedInputs_withDefault (spec : Specification) (catalogue : Catalogue) (node : Node) (pin : String)
    (value : Json) :
    spec.unfedInputs catalogue (node.withDefault pin value) =
      (spec.unfedInputs catalogue node).filter (· ≠ .unfedInput node.id node.kind.typeName pin) :=
  node.unfedInputs_withDefault catalogue _ pin value

theorem unfedInputs_withDefault_of_notMem
    (notMem : .unfedInput node.id node.kind.typeName pin ∉ spec.unfedInputs catalogue node) :
    spec.unfedInputs catalogue (node.withDefault pin value) = spec.unfedInputs catalogue node := by
  rw [unfedInputs_withDefault, List.filter_eq_self]
  intro v hv
  have other : v ≠ .unfedInput node.id node.kind.typeName pin := fun same => notMem (same ▸ hv)
  exact decide_eq_true other

/-- What is said of a node is the same if it is not of a known type, or if the pin had a value before. -/
theorem reports_withDefault_of_idle (idle : catalogue.signature? node = none ∨ pin ∈ node.defaults.names) :
    (node.withDefault pin value).unknownDefaults catalogue = node.unknownDefaults catalogue ∧
      spec.unfedInputs catalogue (node.withDefault pin value) = spec.unfedInputs catalogue node := by
  rcases idle with unknown | there
  · have unknown' : catalogue.signature? (node.withDefault pin value) = none := unknown
    simp only [Node.unknownDefaults, unfedInputs, Node.unfedInputs, unknown, unknown', and_self]
  · exact ⟨Node.unknownDefaults_withDefault_of_mem there,
      unfedInputs_withDefault_of_notMem (Node.unfedInput_notMem_of_mem there)⟩

/-- If a pin of a node gets its first literal value and is one of the inputs, then it is no longer reported. -/
theorem unknownDefaults_withDefault_of_named (known : catalogue.signature? node = some signature)
    (new : pin ∉ node.defaults.names) (named : ∃ input ∈ signature.inputs, input.name = pin) :
    (node.withDefault pin value).unknownDefaults catalogue = node.unknownDefaults catalogue := by
  have found : (signature.input? pin).isSome = true := isSome_find?_iff.2 named
  rw [Node.unknownDefaults_withDefault known new, if_pos found, List.append_nil]

/-- If a pin of a node gets its first literal value and is none of the inputs, then the value is reported. -/
theorem reports_withDefault_of_unnamed (known : catalogue.signature? node = some signature)
    (new : pin ∉ node.defaults.names) (unnamed : ∀ input ∈ signature.inputs, input.name ≠ pin) :
    (node.withDefault pin value).unknownDefaults catalogue =
        node.unknownDefaults catalogue ++ [.unknownDefault node.id node.kind.typeName pin] ∧
      spec.unfedInputs catalogue (node.withDefault pin value) = spec.unfedInputs catalogue node := by
  have missed : ¬(signature.input? pin).isSome = true := by
    rw [NodeSignature.input?, isSome_find?_iff]
    rintro ⟨input, hi, same⟩
    exact unnamed input hi same
  refine ⟨?_, unfedInputs_withDefault_of_notMem (Node.unfedInput_notMem_of_unnamed known unnamed)⟩
  rw [Node.unknownDefaults_withDefault known new, if_neg missed]

/-- The node at an index gets a literal value for a pin.  If the node reads or writes a variable, is of an unknown type,
or has a value for the pin already, the diagnosis stays the same.  Otherwise, if the pin is one of its inputs, it is no
longer reported that this node has nothing there; if it is none of its inputs, the value is reported behind the other
values of this node.  Everything else stays where it is. -/
theorem validate_setDefault (spec : Specification) (catalogue : Catalogue) {index : Nat} {node : Node}
    (at_index : spec.nodes[index]? = some node) (pin : String) (value : Json) :
    spec.violations catalogue =
      spec.violationsBefore catalogue 5 ++ (spec.nodes.flatMap fun other => Node.unknownDefaults other catalogue) ++
        spec.nodes.flatMap (spec.unfedInputs catalogue) ++ spec.violationsFrom catalogue 7 ∧
    (node.kind.isAccessor = true ∨
        (∃ typeName, node.kind = .external typeName ∧ catalogue.nodeType? typeName = none) ∨
        pin ∈ node.defaults.names →
      (spec.setDefault index pin value).validate catalogue = spec.validate catalogue) ∧
    ∀ signature, node.HasSignature catalogue signature → pin ∉ node.defaults.names →
      ((∃ input ∈ signature.inputs, input.name = pin) →
        (spec.setDefault index pin value).validate catalogue =
          (spec.violationsBefore catalogue 5 ++
            (spec.nodes.flatMap fun other => Node.unknownDefaults other catalogue) ++
            ((spec.nodes.take index).flatMap (spec.unfedInputs catalogue) ++
              (((spec.unfedInputs catalogue node).filter (· ≠ .unfedInput node.id node.kind.typeName pin)) ++
                (spec.nodes.drop (index + 1)).flatMap (spec.unfedInputs catalogue))) ++
            spec.violationsFrom catalogue 7).map Violation.toDiagnostic) ∧
      ((∀ input ∈ signature.inputs, input.name ≠ pin) →
        (spec.setDefault index pin value).validate catalogue =
          (spec.violationsBefore catalogue 5 ++
            (((spec.nodes.take index).flatMap fun other => Node.unknownDefaults other catalogue) ++
              (node.unknownDefaults catalogue ++ [Violation.unknownDefault node.id node.kind.typeName pin] ++
                (spec.nodes.drop (index + 1)).flatMap fun other => Node.unknownDefaults other catalogue)) ++
            spec.nodes.flatMap (spec.unfedInputs catalogue) ++
            spec.violationsFrom catalogue 7).map Violation.toDiagnostic) := by
  have cut : spec.nodes = spec.nodes.take index ++ node :: spec.nodes.drop (index + 1) := by
    obtain ⟨lt, rfl⟩ := List.getElem?_eq_some_iff.1 at_index
    rw [List.getElem_cons_drop, List.take_append_drop]
  have around (report : Node → List Violation) : spec.nodes.flatMap report =
      (spec.nodes.take index).flatMap report ++ (report node ++ (spec.nodes.drop (index + 1)).flatMap report) := by
    conv => lhs; rw [cut, List.flatMap_append, List.flatMap_cons]
  have whole : spec.violations catalogue =
      spec.violationsBefore catalogue 5 ++ (spec.nodes.flatMap fun other => Node.unknownDefaults other catalogue) ++
        spec.nodes.flatMap (spec.unfedInputs catalogue) ++ spec.violationsFrom catalogue 7 := by
    rw [violationsBefore_five, violationsFrom_seven, violations_eq_append, stageViolations_five_eq_flatMap,
      stageViolations_six_eq_flatMap]
  have changed := @violations_modifyNode spec catalogue node (fun node => node.withDefault pin value) (fun _ => rfl)
    index at_index
  rw [← setDefault] at changed
  refine ⟨whole, fun idle => ?_, fun signature known new => ⟨fun named => ?_, fun unnamed => ?_⟩⟩
  · rw [← or_assoc, ← Catalogue.signature?_eq_none_iff] at idle
    obtain ⟨defaults, inputs⟩ := reports_withDefault_of_idle idle
    rw [validate, validate, changed, defaults, inputs, ← around, ← around, ← whole]
  · rw [← Catalogue.signature?_eq_some_iff] at known
    rw [validate, changed, unknownDefaults_withDefault_of_named known new named, unfedInputs_withDefault, ← around]
  · rw [← Catalogue.signature?_eq_some_iff] at known
    obtain ⟨defaults, inputs⟩ := reports_withDefault_of_unnamed known new unnamed
    rw [validate, changed, defaults, inputs, ← around]

private theorem nodeType?_filter : Catalogue.builtIn.nodeType? "Biquad Filter" =
    some ⟨[⟨"In", "Audio", true, none⟩, ⟨"Cutoff Frequency", "Float", true, none⟩, ⟨"Bandwidth", "Float", true, none⟩,
      ⟨"Gain", "Float", false, none⟩, ⟨"Type", "Enum", false, none⟩], [⟨"Out", "Audio"⟩]⟩ := by
  decide +kernel

/-- Of the two filters of one id, the second one gets a value for a pin that both lack, for a pin that no filter has,
and for a pin that has a value. -/
theorem validate_setDefault_starved :
    (∃ node, starved.nodes[1]? = some node ∧ "Bandwidth" ∈ node.defaults.names) ∧
    (starved.setDefault 1 "In" .null).validate .builtIn =
      [Violation.duplicateNode "filter", .unfedInput "filter" "Biquad Filter" "In",
        .unfedInput "filter" "Biquad Filter" "Cutoff Frequency"].map Violation.toDiagnostic ∧
    (starved.setDefault 1 "Tint" .null).validate .builtIn =
      [Violation.duplicateNode "filter", .unknownDefault "filter" "Biquad Filter" "Tint",
        .unfedInput "filter" "Biquad Filter" "In", .unfedInput "filter" "Biquad Filter" "In",
        .unfedInput "filter" "Biquad Filter" "Cutoff Frequency"].map Violation.toDiagnostic ∧
    (starved.setDefault 1 "Bandwidth" .null).validate .builtIn = starved.validate .builtIn := by
  let filter := (Node.ofKind "filter" (.external "Biquad Filter")).withDefault "Bandwidth" (.num (.int 1))
  have at_index : starved.nodes[1]? = some filter := rfl
  have known : filter.HasSignature .builtIn _ := ⟨"Biquad Filter", rfl, nodeType?_filter⟩
  refine ⟨⟨_, at_index, by decide⟩, ?_, ?_, ?_⟩
  · obtain ⟨-, -, effect⟩ := validate_setDefault starved .builtIn at_index "In" .null
    rw [(effect _ known (by decide)).1 ⟨_, List.mem_cons_self, rfl⟩]
    decide +kernel
  · obtain ⟨-, -, effect⟩ := validate_setDefault starved .builtIn at_index "Tint" .null
    rw [(effect _ known (by decide)).2 (by decide)]
    decide +kernel
  · obtain ⟨-, idle, -⟩ := validate_setDefault starved .builtIn at_index "Bandwidth" .null
    exact idle (.inr (.inr (by decide)))

end Specification

end AudioGraph
