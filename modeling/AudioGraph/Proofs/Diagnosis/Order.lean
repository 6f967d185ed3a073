import AudioGraph.Proofs.Diagnosis.WellFormed

/-!
# The order of a diagnosis

The checks come one after the other, and a violation tells by its form which check has reported it.  Within a check the
report is put together from what single connections or single nodes add to it, in their order.

* (stages) The violations of a specification are those of eight stages in turn (`violations_eq_append`).  Each stage has
  violations of its own form only (`stage_of_mem_stageViolations`), and they stay the same where the lists that it goes
  through and the pins stay the same (`stageViolations_congr`).  So the stages come in turn
  (`pairwise_stage_violations`), and a diagnosis can be cut where a stage begins (`violationsBefore`, `violationsFrom`).
* (connections) A connection adds what is wrong with its ends, or else what is wrong with its pins
  (`connectionViolations_eq`).
* (nodes) A node adds one violation if it is nothing known (`nodeKindViolations_eq`), one for each literal value without
  an input (`defaultViolations_eq_flatMap`), and one for each required input that has nothing
  (`requiredInputViolations_eq_flatMap`).
-/

namespace AudioGraph

open Violation (ifNot)

namespace Violation

/-- The stage of a diagnosis in which a violation is reported. -/
def stage : Violation → Nat
  | unknownAssetType .. => 0
  | unknownInterface .. => 1
  | duplicateVariable .. | unknownVariableType .. => 2
  | duplicateNode .. | undeclaredVariable .. | unknownNodeType .. => 3
  | danglingSource .. | danglingDestination .. | unknownOutput .. | unknownInput .. | typeMismatch .. => 4
  | unknownDefault .. => 5
  | unfedInput .. => 6
  | missingInput .. | missingOutput .. => 7

/-- The last three stages are about completeness. -/
theorem kind_eq_completeness_iff {v : Violation} : v.kind = .completeness ↔ 5 ≤ v.stage := by
  cases v <;> simp [kind, stage]

theorem mem_ifNot {fine : Bool} {v w : Violation} : w ∈ ifNot fine v ↔ fine = false ∧ w = v := by
  cases fine <;> simp [ifNot]

theorem flatMap_ifNot {α : Type} (fine : α → Bool) (v : α → Violation) (xs : List α) :
    (xs.flatMap fun x => ifNot (fine x) (v x)) = (xs.filter fun x => !fine x).map v := by
  induction xs with
  | nil => rfl
  | cons x rest ih =>
    rw [List.flatMap_cons, ih]
    cases h : fine x <;> simp [ifNot, h]

/-- Where a stage begins, a list of violations can be cut in one place only. -/
theorem eq_filter_of_stage {whole before after : List Violation} {n : Nat} (cut : whole = before ++ after)
    (early : ∀ v ∈ before, v.stage < n) (late : ∀ v ∈ after, n ≤ v.stage) :
    before = whole.filter (·.stage < n) ∧ after = whole.filter (n ≤ ·.stage) := by
  subst cut
  have no_late : before.filter (n ≤ ·.stage) = [] := by
    refine List.filter_eq_nil_iff.2 fun v hv => ?_
    simpa using early v hv
  have no_early : after.filter (·.stage < n) = [] := by
    refine List.filter_eq_nil_iff.2 fun v hv => ?_
    simpa using late v hv
  have all_early : before.filter (·.stage < n) = before := List.filter_eq_self.2 (by simpa using early)
  have all_late : after.filter (n ≤ ·.stage) = after := List.filter_eq_self.2 (by simpa using late)
  rw [List.filter_append, List.filter_append, no_late, no_early, all_early, all_late]
  exact ⟨(List.append_nil _).symm, rfl⟩

end Violation

open Violation (mem_ifNot flatMap_ifNot)

/-! ### Connections -/

namespace PinResolver

variable (pins : PinResolver)

/-- What is wrong with the ends of a connection. -/
def endViolations (c : Connection) : List Violation :=
  (if pins.contains c.source then [] else [.danglingSource c.source]) ++
    if pins.contains c.destination then [] else [.danglingDestination c.destination]

/-- What is wrong with the pins of a connection. -/
def pinViolations (c : Connection) : List Violation :=
  match pins.outputType? c.source c.sourcePin, pins.inputType? c.destination c.destinationPin with
  | some sourceType, some destinationType =>
    if pins.catalogue.isCompatible sourceType destinationType then []
    else [.typeMismatch c sourceType destinationType (pins.catalogue.compatibleTargets sourceType).toList]
  | none, some _ => [.unknownOutput c.source c.sourcePin]
  | some _, none => [.unknownInput c.destination c.destinationPin]
  | none, none => [.unknownOutput c.source c.sourcePin, .unknownInput c.destination c.destinationPin]

/-- The pins of a connection are only looked at if its ends are known. -/
theorem connectionViolations_eq (c : Connection) :
    pins.connectionViolations c = if pins.containsBoth c then pins.pinViolations c else pins.endViolations c := by
  unfold connectionViolations pinViolations endViolations
  cases pins.outputType? c.source c.sourcePin <;> cases pins.inputType? c.destination c.destinationPin <;> rfl

theorem stage_of_mem_connectionViolations {c : Connection} {v : Violation} (h : v ∈ pins.connectionViolations c) :
    v.stage = 4 := by
  unfold connectionViolations at h
  split at h
  · split at h
    · rw [(mem_ifNot.1 h).2]
      rfl
    · rcases List.mem_append.1 h with h | h <;> rw [(mem_ifNot.1 h).2] <;> rfl
  · rcases List.mem_append.1 h with h | h <;> rw [(mem_ifNot.1 h).2] <;> rfl

/-- Some connection between known ends arrives at a pin of a node. -/
def feeds (connections : List Connection) (id pin : String) : Bool :=
  connections.any fun c => pins.containsBoth c && c.destination == .node id && c.destinationPin == pin

theorem contains_fedPins (connections : List Connection) (id pin : String) :
    (pins.fedPins connections).contains (.node id, pin) = pins.feeds connections id pin := by
  rw [Bool.eq_iff_iff, List.contains_iff_mem, mem_fedPins_iff, feeds, List.any_eq_true]
  simp only [Bool.and_eq_true, beq_iff_eq, and_assoc]

end PinResolver

/-! ### Nodes -/

namespace Node

/-- The violation of a node that is nothing known. -/
def unknown (node : Node) : Violation :=
  match node.kind with
  | .external typeName => .unknownNodeType node.id typeName
  | .read name | .delayedRead name | .write name => .undeclaredVariable node.id name

/-- The violations of the literal values of a node that are for none of its inputs. -/
def unknownDefaults (node : Node) (catalogue : Catalogue) : List Violation :=
  match catalogue.signature? node with
  | none => []
  | some signature =>
    (node.defaults.names.filter fun pin => !(signature.input? pin).isSome).map
      (.unknownDefault node.id node.kind.typeName)

/-- The violations of the required inputs of a node that are not fed and have neither a literal nor a documented
value. -/
def unfedInputs (node : Node) (catalogue : Catalogue) (fed : String → Bool) : List Violation :=
  match catalogue.signature? node with
  | none => []
  | some signature =>
    (signature.inputs.filter fun pin => pin.required && !fed pin.name && !(node.defaults.get? pin.name).isSome &&
      !pin.default.isSome).map fun pin => .unfedInput node.id node.kind.typeName pin.name

theorem stage_of_mem_unknownDefaults {node : Node} {catalogue : Catalogue} {v : Violation}
    (h : v ∈ node.unknownDefaults catalogue) : v.stage = 5 := by
  unfold unknownDefaults at h
  split at h
  · cases h
  · obtain ⟨pin, -, rfl⟩ := List.mem_map.1 h
    rfl

theorem stage_of_mem_unfedInputs {node : Node} {catalogue : Catalogue} {fed : String → Bool} {v : Violation}
    (h : v ∈ node.unfedInputs catalogue fed) : v.stage = 6 := by
  unfold unfedInputs at h
  split at h
  · cases h
  · obtain ⟨pin, -, rfl⟩ := List.mem_map.1 h
    rfl

end Node

namespace Specification

variable (spec : Specification) (catalogue : Catalogue)

instance : DecidablePred (spec.KindKnown catalogue)
  | .external _ => decidable_of_iff _ Option.isSome_iff_exists
  | .read name | .delayedRead name | .write name => inferInstanceAs (Decidable (∃ v ∈ spec.vars, v.name = name))

theorem nodeKindViolations_eq (node : Node) :
    spec.nodeKindViolations catalogue node = if spec.KindKnown catalogue node.kind then [] else [node.unknown] := by
  split
  · next known => exact nodeKindViolations_eq_nil_iff.2 known
  · next unknown =>
    rw [← nodeKindViolations_eq_nil_iff] at unknown
    unfold nodeKindViolations Node.unknown at *
    split at unknown <;> simp_all [ifNot]

theorem defaultViolations_eq_flatMap :
    spec.defaultViolations catalogue = spec.nodes.flatMap fun node => node.unknownDefaults catalogue := by
  refine List.flatMap_congr fun node _ => ?_
  unfold Node.unknownDefaults
  cases catalogue.signature? node with
  | none => rfl
  | some signature => exact flatMap_ifNot ..

theorem requiredInputViolations_eq_flatMap (pins : PinResolver) (connections : List Connection) :
    spec.requiredInputViolations catalogue (pins.fedPins connections) =
      spec.nodes.flatMap fun node => node.unfedInputs catalogue (pins.feeds connections node.id) := by
  refine List.flatMap_congr fun node _ => ?_
  unfold Node.unfedInputs
  cases catalogue.signature? node with
  | none => rfl
  | some signature =>
    simp only [flatMap_ifNot, PinResolver.contains_fedPins, Bool.not_or, Bool.not_not]

/-! ### Stages -/

/-- The violations that are reported in a stage. -/
def stageViolations : Nat → List Violation
  | 0 => spec.assetTypeViolations catalogue
  | 1 => spec.interfaceViolations catalogue
  | 2 => spec.variableViolations catalogue
  | 3 => spec.nodeViolations catalogue
  | 4 => spec.connections.flatMap (PinResolver.new spec catalogue).connectionViolations
  | 5 => spec.defaultViolations catalogue
  | 6 => spec.requiredInputViolations catalogue ((PinResolver.new spec catalogue).fedPins spec.connections)
  | 7 => spec.interfacePinViolations catalogue
  | _ => []

theorem violations_eq_append :
    spec.violations catalogue =
      spec.stageViolations catalogue 0 ++ spec.stageViolations catalogue 1 ++ spec.stageViolations catalogue 2 ++
        spec.stageViolations catalogue 3 ++ spec.stageViolations catalogue 4 ++ spec.stageViolations catalogue 5 ++
        spec.stageViolations catalogue 6 ++ spec.stageViolations catalogue 7 :=
  rfl

/-- The lists that a stage goes through are the same in two specifications. -/
def SameLists (spec other : Specification) : Nat → Prop
  | 0 => spec.assetType = other.assetType
  | 1 | 7 => spec.interfaces = other.interfaces
  | 2 => spec.vars = other.vars
  | 3 | 5 => spec.nodes = other.nodes
  | 4 => spec.connections = other.connections
  | 6 => spec.nodes = other.nodes ∧ spec.connections = other.connections
  | _ => True

variable {spec catalogue}

/-- What a stage reports depends on the lists that it goes through, and apart from them on nothing but the pins. -/
theorem stageViolations_congr {other : Specification} {n : Nat} (same : spec.SamePins other)
    (lists : spec.SameLists other n) : spec.stageViolations catalogue n = other.stageViolations catalogue n := by
  unfold SameLists at lists
  split at lists
  · rw [stageViolations, stageViolations, assetTypeViolations, assetTypeViolations, lists]
  · rw [stageViolations, stageViolations, interfaceViolations, interfaceViolations, lists]
  · exact interfacePinViolations_congr same lists
  · rw [stageViolations, stageViolations, variableViolations, variableViolations, lists]
  · rw [stageViolations, stageViolations, nodeViolations, nodeViolations, lists,
      funext (nodeKindViolations_congr same)]
  · rw [stageViolations, stageViolations, defaultViolations, defaultViolations, lists]
  · rw [stageViolations, stageViolations, lists, funext (PinResolver.connectionViolations_congr same)]
  · rw [stageViolations, stageViolations, PinResolver.fedPins_congr same, lists.2, requiredInputViolations,
      requiredInputViolations, lists.1]
  · next h0 h1 h7 h2 h3 h5 h4 h6 => simp only [stageViolations]

theorem stage_of_mem_variableViolations {v : Violation} (h : v ∈ spec.variableViolations catalogue) : v.stage = 2 := by
  obtain ⟨m, -, h⟩ := List.mem_flatMap.1 h
  rcases List.mem_append.1 h with h | h <;> rw [(mem_ifNot.1 h).2] <;> rfl

theorem stage_of_mem_nodeViolations {v : Violation} (h : v ∈ spec.nodeViolations catalogue) : v.stage = 3 := by
  obtain ⟨m, -, h⟩ := List.mem_flatMap.1 h
  rcases List.mem_append.1 h with h | h
  · rw [(mem_ifNot.1 h).2]
    rfl
  · rw [nodeKindViolations_eq] at h
    split at h
    · cases h
    · rw [List.mem_singleton.1 h, Node.unknown]
      cases m.1.kind <;> rfl

theorem stage_of_mem_interfacePinViolations {v : Violation} (h : v ∈ spec.interfacePinViolations catalogue) :
    v.stage = 7 := by
  obtain ⟨name, -, h⟩ := List.mem_flatMap.1 h
  split at h
  · cases h
  · rcases List.mem_append.1 h with h | h <;> obtain ⟨pin, -, h⟩ := List.mem_flatMap.1 h <;>
      rw [(mem_ifNot.1 h).2] <;> rfl

/-- Each stage has violations of its own form only. -/
theorem stage_of_mem_stageViolations {n : Nat} {v : Violation} (h : v ∈ spec.stageViolations catalogue n) :
    v.stage = n := by
  unfold stageViolations at h
  split at h
  · rw [(mem_ifNot.1 h).2]
    rfl
  · obtain ⟨name, -, h⟩ := List.mem_flatMap.1 h
    rw [(mem_ifNot.1 h).2]
    rfl
  · exact stage_of_mem_variableViolations h
  · exact stage_of_mem_nodeViolations h
  · obtain ⟨c, -, h⟩ := List.mem_flatMap.1 h
    exact PinResolver.stage_of_mem_connectionViolations _ h
  · rw [defaultViolations_eq_flatMap] at h
    obtain ⟨node, -, h⟩ := List.mem_flatMap.1 h
    exact Node.stage_of_mem_unknownDefaults h
  · rw [requiredInputViolations_eq_flatMap] at h
    obtain ⟨node, -, h⟩ := List.mem_flatMap.1 h
    exact Node.stage_of_mem_unfedInputs h
  · exact stage_of_mem_interfacePinViolations h
  · cases h

variable (spec catalogue)

theorem violations_eq_flatMap :
    spec.violations catalogue = (List.range 8).flatMap (spec.stageViolations catalogue) := by
  rw [violations_eq_append]
  simp [List.range_succ]

/-- The violations of some of the stages are those that these stages report. -/
theorem filter_stage_violations (selects : Nat → Bool) :
    (spec.violations catalogue).filter (selects ·.stage) =
      ((List.range 8).filter selects).flatMap (spec.stageViolations catalogue) := by
  have one (n : Nat) : (spec.stageViolations catalogue n).filter (selects ·.stage) =
      if selects n then spec.stageViolations catalogue n else [] := by
    have same : ∀ v ∈ spec.stageViolations catalogue n, selects v.stage = selects n :=
      fun v hv => congrArg selects (stage_of_mem_stageViolations hv)
    split
    · next selected => exact List.filter_eq_self.2 fun v hv => (same v hv).trans selected
    · next skipped => exact List.filter_eq_nil_iff.2 fun v hv => by rwa [same v hv]
  rw [violations_eq_flatMap, List.filter_flatMap]
  simp only [one]
  generalize List.range 8 = stages
  induction stages with
  | nil => rfl
  | cons n rest ih =>
    rw [List.flatMap_cons, ih]
    cases h : selects n <;> simp [h]

variable {spec catalogue} in
/-- What is only ever reported in one stage is found there. -/
theorem filter_violations_of_stage {selects : Violation → Bool} {n : Nat} (hn : n < 8)
    (staged : ∀ v, selects v = true → v.stage = n) :
    (spec.violations catalogue).filter selects = (spec.stageViolations catalogue n).filter selects := by
  have distinct : ((List.range 8).map id).Nodup := by decide
  rw [violations_eq_flatMap, List.filter_flatMap]
  refine flatMap_eq_of_nodup distinct (List.mem_range.2 hn) fun m _ hm => ?_
  refine List.filter_eq_nil_iff.2 fun v hv selected => ?_
  exact hm ((stage_of_mem_stageViolations hv).symm.trans (staged v selected))

/-- In a diagnosis no violation stands behind one of a later stage. -/
theorem pairwise_stage_violations : (spec.violations catalogue).Pairwise fun v w => v.stage ≤ w.stage := by
  rw [violations_eq_flatMap, List.pairwise_flatMap]
  constructor
  · intro n _
    refine List.pairwise_of_forall_mem_list fun v hv w hw => ?_
    exact Nat.le_of_eq ((stage_of_mem_stageViolations hv).trans (stage_of_mem_stageViolations hw).symm)
  · refine List.pairwise_le_range.imp fun hle v hv w hw => ?_
    rw [stage_of_mem_stageViolations hv, stage_of_mem_stageViolations hw]
    exact hle

theorem mem_stageViolations_of_mem {v : Violation} (h : v ∈ spec.violations catalogue) :
    v ∈ spec.stageViolations catalogue v.stage := by
  rw [violations_eq_flatMap, List.mem_flatMap] at h
  obtain ⟨n, -, hv⟩ := h
  rwa [stage_of_mem_stageViolations hv]

/-- The violations that are reported before a stage. -/
def violationsBefore (n : Nat) : List Violation := (spec.violations catalogue).filter (·.stage < n)

/-- The violations that are reported from a stage on. -/
def violationsFrom (n : Nat) : List Violation := (spec.violations catalogue).filter (n ≤ ·.stage)

theorem violationsBefore_five :
    spec.violationsBefore catalogue 5 =
      spec.stageViolations catalogue 0 ++ spec.stageViolations catalogue 1 ++ spec.stageViolations catalogue 2 ++
        spec.stageViolations catalogue 3 ++ spec.stageViolations catalogue 4 := by
  have stages : (List.range 8).filter (· < 5) = [0, 1, 2, 3, 4] := rfl
  rw [violationsBefore, filter_stage_violations spec catalogue (· < 5), stages]
  simp only [List.flatMap_cons, List.flatMap_nil, List.append_nil, List.append_assoc]

theorem violationsFrom_seven : spec.violationsFrom catalogue 7 = spec.stageViolations catalogue 7 := by
  have stages : (List.range 8).filter (7 ≤ ·) = [7] := rfl
  rw [violationsFrom, filter_stage_violations spec catalogue (7 ≤ ·), stages, List.flatMap_singleton]

/-- The required inputs of a node that are reported. -/
def unfedInputs (node : Node) : List Violation :=
  node.unfedInputs catalogue ((PinResolver.new spec catalogue).feeds spec.connections node.id)

theorem stageViolations_six_eq_flatMap :
    spec.stageViolations catalogue 6 = spec.nodes.flatMap (spec.unfedInputs catalogue) :=
  spec.requiredInputViolations_eq_flatMap catalogue _ _

theorem stageViolations_five_eq_flatMap :
    spec.stageViolations catalogue 5 = spec.nodes.flatMap fun other => Node.unknownDefaults other catalogue :=
  spec.defaultViolations_eq_flatMap catalogue

end Specification

end AudioGraph
