import AudioGraph.Proofs.Diagnosis.Order

/-!
# Verdicts on connections

Every connection is judged on its own.  The verdict is about its ends, or else about its pins, or else about the types
of the pins, and it says the same as if there were no other connection.

The checks walk over the connections with two things in hand: what has been reported, and the pins that are fed.  A
connection with an unknown end is reported and passed over; any other one feeds the pin at which it arrives, whatever is
wrong with its pins.

* (pins) The resolver finds what the first node of an id gives and takes (`outputType?_eq_some_iff_firstGives`,
  `inputType?_eq_some_iff_firstTakes`).
* (verdicts) There is exactly one verdict on a connection, and it is reported (`verdict_iff`).
* (walks) One step of a walk reports the verdict on one connection (`step_eq`), and a whole walk reports all verdicts in
  turn behind what has been reported before (`foldl_step`).
-/

namespace AudioGraph

/-! ### Pins -/

namespace Specification

variable {spec : Specification} {catalogue : Catalogue}

/-- A connection that starts at a pin of an endpoint carries values of a type.  Of the nodes of an id, the first one
counts. -/
inductive FirstGives (spec : Specification) (catalogue : Catalogue) : Endpoint → String → String → Prop where
  | boundary {pin : String} {input : GraphInput} :
      IsFirst GraphInput.name pin spec.inputs input → FirstGives spec catalogue .boundary pin input.pinType
  | node {id pin pinType : String} {node : Node} :
      IsFirst Node.id id spec.nodes node → spec.KindGives catalogue node.kind pin pinType →
        FirstGives spec catalogue (.node id) pin pinType

/-- A connection that ends at a pin of an endpoint has to carry values for a type.  Of the nodes of an id, the first one
counts. -/
inductive FirstTakes (spec : Specification) (catalogue : Catalogue) : Endpoint → String → String → Prop where
  | boundary {pin : String} {output : GraphOutput} :
      IsFirst GraphOutput.name pin spec.outputs output → FirstTakes spec catalogue .boundary pin output.pinType
  | node {id pin pinType : String} {node : Node} :
      IsFirst Node.id id spec.nodes node → spec.KindTakes catalogue node.kind pin pinType →
        FirstTakes spec catalogue (.node id) pin pinType

theorem FirstGives.declares {endpoint : Endpoint} {pin pinType : String}
    (h : spec.FirstGives catalogue endpoint pin pinType) : spec.Declares endpoint := by
  cases h with
  | boundary _ => trivial
  | node first _ => exact ⟨_, first.mem, first.name_eq⟩

theorem FirstTakes.declares {endpoint : Endpoint} {pin pinType : String}
    (h : spec.FirstTakes catalogue endpoint pin pinType) : spec.Declares endpoint := by
  cases h with
  | boundary _ => trivial
  | node first _ => exact ⟨_, first.mem, first.name_eq⟩

end Specification

namespace PinResolver

variable {spec : Specification} {catalogue : Catalogue} {endpoint : Endpoint} {pin pinType : String}

private theorem findNode?_bind_eq_some_iff_isFirst {id : String} {f : Node → Option String} :
    (spec.findNode? id).bind f = some pinType ↔ ∃ node, IsFirst Node.id id spec.nodes node ∧ f node = some pinType := by
  rw [Option.bind_eq_some_iff]
  exact exists_congr fun node => and_congr_left fun _ => find?_eq_some_iff_isFirst

theorem outputType?_eq_some_iff_firstGives :
    (new spec catalogue).outputType? endpoint pin = some pinType ↔ spec.FirstGives catalogue endpoint pin pinType := by
  cases endpoint with
  | boundary =>
    rw [outputType?, Specification.findInput?, map_find?_eq_some_iff]
    constructor
    · rintro ⟨input, first, rfl⟩
      exact .boundary first
    · rintro ⟨first⟩
      exact ⟨_, first, rfl⟩
  | node id =>
    rw [outputType?_node, findNode?_bind_eq_some_iff_isFirst]
    constructor
    · rintro ⟨node, first, h⟩
      exact .node first (nodeOutputType?_eq_some_iff.1 h)
    · rintro ⟨⟩
      next node first h => exact ⟨node, first, nodeOutputType?_eq_some_iff.2 h⟩

theorem inputType?_eq_some_iff_firstTakes :
    (new spec catalogue).inputType? endpoint pin = some pinType ↔ spec.FirstTakes catalogue endpoint pin pinType := by
  cases endpoint with
  | boundary =>
    rw [inputType?, Specification.findOutput?, map_find?_eq_some_iff]
    constructor
    · rintro ⟨output, first, rfl⟩
      exact .boundary first
    · rintro ⟨first⟩
      exact ⟨_, first, rfl⟩
  | node id =>
    rw [inputType?_node, findNode?_bind_eq_some_iff_isFirst]
    constructor
    · rintro ⟨node, first, h⟩
      exact .node first (nodeInputType?_eq_some_iff.1 h)
    · rintro ⟨⟩
      next node first h => exact ⟨node, first, nodeInputType?_eq_some_iff.2 h⟩

theorem outputType?_eq_none_iff_firstGives :
    (new spec catalogue).outputType? endpoint pin = none ↔
      ∀ pinType, ¬spec.FirstGives catalogue endpoint pin pinType := by
  simp only [← outputType?_eq_some_iff_firstGives, Option.eq_none_iff_forall_ne_some]

theorem inputType?_eq_none_iff_firstTakes :
    (new spec catalogue).inputType? endpoint pin = none ↔
      ∀ pinType, ¬spec.FirstTakes catalogue endpoint pin pinType := by
  simp only [← inputType?_eq_some_iff_firstTakes, Option.eq_none_iff_forall_ne_some]

end PinResolver

/-! ### Verdicts -/

theorem Violation.eq_typeMismatch_of_code {v : Violation} (h : v.code = "V012") :
    ∃ c sourceType destinationType targets, v = .typeMismatch c sourceType destinationType targets := by
  cases v with
  | typeMismatch c sourceType destinationType targets => exact ⟨c, sourceType, destinationType, targets, rfl⟩
  | _ => simp [code] at h

/-- A list of pin types names the types that a pin type may feed, each once, in ascending order. -/
structure Catalogue.ListsTargets (catalogue : Catalogue) (source : String) (targets : List String) : Prop where
  ascending : targets.Pairwise (· < ·)
  mem_iff : ∀ pinType, pinType ∈ targets ↔ catalogue.Feeds source pinType

/-- The compatible targets are such a list, and there is no other one. -/
theorem Catalogue.listsTargets_iff {catalogue : Catalogue} {source : String} {targets : List String} :
    catalogue.ListsTargets source targets ↔ targets = (catalogue.compatibleTargets source).toList := by
  have feeds (pinType : String) :
      pinType ∈ (catalogue.compatibleTargets source).toList ↔ catalogue.Feeds source pinType := by
    rw [← NameSet.mem_def, ← isCompatible_iff_mem, isCompatible_iff_feeds]
  constructor
  · intro h
    have same : NameSet.mk targets h.ascending = catalogue.compatibleTargets source :=
      NameSet.ext_mem fun pinType => (h.mem_iff pinType).trans (feeds pinType).symm
    exact congrArg NameSet.toList same
  · rintro rfl
    exact ⟨(catalogue.compatibleTargets source).ascending, feeds⟩

/-- What is to be said of a connection. -/
inductive Specification.Verdict (spec : Specification) (catalogue : Catalogue) (c : Connection) :
    List Violation → Prop where
  | noSource : ¬spec.Declares c.source → spec.Declares c.destination →
      Verdict spec catalogue c [.danglingSource c.source]
  | noDestination : spec.Declares c.source → ¬spec.Declares c.destination →
      Verdict spec catalogue c [.danglingDestination c.destination]
  | noEnds : ¬spec.Declares c.source → ¬spec.Declares c.destination →
      Verdict spec catalogue c [.danglingSource c.source, .danglingDestination c.destination]
  | noOutput {destinationType : String} : spec.Declares c.source →
      (∀ pinType, ¬spec.FirstGives catalogue c.source c.sourcePin pinType) →
      spec.FirstTakes catalogue c.destination c.destinationPin destinationType →
      Verdict spec catalogue c [.unknownOutput c.source c.sourcePin]
  | noInput {sourceType : String} : spec.Declares c.destination →
      spec.FirstGives catalogue c.source c.sourcePin sourceType →
      (∀ pinType, ¬spec.FirstTakes catalogue c.destination c.destinationPin pinType) →
      Verdict spec catalogue c [.unknownInput c.destination c.destinationPin]
  | noPins : spec.Declares c.source → spec.Declares c.destination →
      (∀ pinType, ¬spec.FirstGives catalogue c.source c.sourcePin pinType) →
      (∀ pinType, ¬spec.FirstTakes catalogue c.destination c.destinationPin pinType) →
      Verdict spec catalogue c [.unknownOutput c.source c.sourcePin, .unknownInput c.destination c.destinationPin]
  | mismatch {sourceType destinationType : String} {targets : List String} :
      spec.FirstGives catalogue c.source c.sourcePin sourceType →
      spec.FirstTakes catalogue c.destination c.destinationPin destinationType →
      ¬catalogue.Feeds sourceType destinationType → catalogue.ListsTargets sourceType targets →
      Verdict spec catalogue c [.typeMismatch c sourceType destinationType targets]
  | fits {sourceType destinationType : String} :
      spec.FirstGives catalogue c.source c.sourcePin sourceType →
      spec.FirstTakes catalogue c.destination c.destinationPin destinationType →
      catalogue.Feeds sourceType destinationType → Verdict spec catalogue c []

namespace PinResolver

variable {spec : Specification} {catalogue : Catalogue} {c : Connection} {violations : List Violation}

private theorem connectionViolations_of_declares (hs : spec.Declares c.source) (hd : spec.Declares c.destination) :
    (new spec catalogue).connectionViolations c = (new spec catalogue).pinViolations c := by
  have known : (new spec catalogue).containsBoth c = true :=
    containsBoth_iff.2 ⟨contains_new_iff.2 hs, contains_new_iff.2 hd⟩
  rw [connectionViolations_eq, if_pos known]

private theorem connectionViolations_of_not_declares
    (unknown : ¬(spec.Declares c.source ∧ spec.Declares c.destination)) :
    (new spec catalogue).connectionViolations c = (new spec catalogue).endViolations c := by
  have unknown' : ¬(new spec catalogue).containsBoth c = true := by
    rwa [containsBoth_iff, contains_new_iff, contains_new_iff]
  rw [connectionViolations_eq, if_neg unknown']

/-- What is reported of a connection is a verdict. -/
theorem verdict_connectionViolations (spec : Specification) (catalogue : Catalogue) (c : Connection) :
    spec.Verdict catalogue c ((new spec catalogue).connectionViolations c) := by
  by_cases known : spec.Declares c.source ∧ spec.Declares c.destination
  · obtain ⟨hs, hd⟩ := known
    rw [connectionViolations_of_declares hs hd, pinViolations]
    cases gives : (new spec catalogue).outputType? c.source c.sourcePin with
    | none =>
      rw [outputType?_eq_none_iff_firstGives] at gives
      cases takes : (new spec catalogue).inputType? c.destination c.destinationPin with
      | none => exact .noPins hs hd gives (inputType?_eq_none_iff_firstTakes.1 takes)
      | some destinationType => exact .noOutput hs gives (inputType?_eq_some_iff_firstTakes.1 takes)
    | some sourceType =>
      rw [outputType?_eq_some_iff_firstGives] at gives
      cases takes : (new spec catalogue).inputType? c.destination c.destinationPin with
      | none => exact .noInput hd gives (inputType?_eq_none_iff_firstTakes.1 takes)
      | some destinationType =>
        rw [inputType?_eq_some_iff_firstTakes] at takes
        have feeds : (new spec catalogue).catalogue.isCompatible sourceType destinationType = true ↔
            catalogue.Feeds sourceType destinationType := Catalogue.isCompatible_iff_feeds
        dsimp only
        split
        · next fits => exact .fits gives takes (feeds.1 fits)
        · next clash => exact .mismatch gives takes (mt feeds.2 clash) (Catalogue.listsTargets_iff.2 rfl)
  · rw [connectionViolations_of_not_declares known, endViolations]
    by_cases hs : spec.Declares c.source
    · have hd : ¬spec.Declares c.destination := fun hd => known ⟨hs, hd⟩
      rw [if_pos (contains_new_iff.2 hs), if_neg (mt contains_new_iff.1 hd)]
      exact .noDestination hs hd
    · rw [if_neg (mt contains_new_iff.1 hs)]
      by_cases hd : spec.Declares c.destination
      · rw [if_pos (contains_new_iff.2 hd)]
        exact .noSource hs hd
      · rw [if_neg (mt contains_new_iff.1 hd)]
        exact .noEnds hs hd

/-- There is one verdict on a connection, and it is what is reported. -/
theorem verdict_iff :
    spec.Verdict catalogue c violations ↔ (new spec catalogue).connectionViolations c = violations := by
  constructor
  · intro verdict
    cases verdict with
    | noSource hs hd =>
      rw [connectionViolations_of_not_declares fun known => hs known.1, endViolations,
        if_neg (mt contains_new_iff.1 hs), if_pos (contains_new_iff.2 hd), List.append_nil]
    | noDestination hs hd =>
      rw [connectionViolations_of_not_declares fun known => hd known.2, endViolations,
        if_pos (contains_new_iff.2 hs), if_neg (mt contains_new_iff.1 hd), List.nil_append]
    | noEnds hs hd =>
      rw [connectionViolations_of_not_declares fun known => hs known.1, endViolations,
        if_neg (mt contains_new_iff.1 hs), if_neg (mt contains_new_iff.1 hd), List.singleton_append]
    | noOutput hs gives takes =>
      rw [connectionViolations_of_declares hs takes.declares, pinViolations,
        outputType?_eq_none_iff_firstGives.2 gives, inputType?_eq_some_iff_firstTakes.2 takes]
    | noInput hd gives takes =>
      rw [connectionViolations_of_declares gives.declares hd, pinViolations,
        outputType?_eq_some_iff_firstGives.2 gives, inputType?_eq_none_iff_firstTakes.2 takes]
    | noPins hs hd gives takes =>
      rw [connectionViolations_of_declares hs hd, pinViolations, outputType?_eq_none_iff_firstGives.2 gives,
        inputType?_eq_none_iff_firstTakes.2 takes]
    | mismatch gives takes clash listed =>
      rw [connectionViolations_of_declares gives.declares takes.declares, pinViolations,
        outputType?_eq_some_iff_firstGives.2 gives, inputType?_eq_some_iff_firstTakes.2 takes,
        Catalogue.listsTargets_iff.1 listed]
      exact if_neg (mt Catalogue.isCompatible_iff_feeds.1 clash)
    | fits gives takes feeds =>
      rw [connectionViolations_of_declares gives.declares takes.declares, pinViolations,
        outputType?_eq_some_iff_firstGives.2 gives, inputType?_eq_some_iff_firstTakes.2 takes]
      exact if_pos (Catalogue.isCompatible_iff_feeds.2 feeds)
  · rintro rfl
    exact verdict_connectionViolations spec catalogue c

end PinResolver

/-! ### Walks -/

/-- What a walk over the connections has in hand. -/
structure Walk where
  /-- What has been reported so far. -/
  reported : List Diagnostic
  /-- The pins that are fed so far. -/
  fed : List (Endpoint × String)

namespace Walk

/-- Reports a violation, unless all is fine. -/
def reportUnless (walk : Walk) (fine : Bool) (violation : Violation) : Walk :=
  if fine then walk else { walk with reported := walk.reported ++ [violation.toDiagnostic] }

/-- Reports the ends of a connection that are unknown. -/
def reportEnds (walk : Walk) (pins : PinResolver) (c : Connection) : Walk :=
  (walk.reportUnless (pins.contains c.source) (.danglingSource c.source)).reportUnless
    (pins.contains c.destination) (.danglingDestination c.destination)

/-- Reports the pins of a connection that are not found, or else two that do not go together. -/
def reportPins (walk : Walk) (pins : PinResolver) (c : Connection) : Walk :=
  let sourceType? := pins.outputType? c.source c.sourcePin
  let destinationType? := pins.inputType? c.destination c.destinationPin
  let walk := walk.reportUnless sourceType?.isSome (.unknownOutput c.source c.sourcePin)
  let walk := walk.reportUnless destinationType?.isSome (.unknownInput c.destination c.destinationPin)
  match sourceType?, destinationType? with
  | some sourceType, some destinationType =>
    walk.reportUnless (pins.catalogue.isCompatible sourceType destinationType)
      (.typeMismatch c sourceType destinationType (pins.catalogue.compatibleTargets sourceType).toList)
  | _, _ => walk

/-- The walk goes over a connection. -/
def step (pins : PinResolver) (walk : Walk) (c : Connection) : Walk :=
  let walk := walk.reportEnds pins c
  if !pins.contains c.source || !pins.contains c.destination then walk
  else
    let walk := walk.reportPins pins c
    { walk with fed := walk.fed ++ [(c.destination, c.destinationPin)] }

theorem reportUnless_eq (walk : Walk) (fine : Bool) (violation : Violation) :
    walk.reportUnless fine violation =
      ⟨walk.reported ++ (if fine then [] else [violation]).map Violation.toDiagnostic, walk.fed⟩ := by
  cases fine with
  | false => rfl
  | true => rw [reportUnless, if_pos rfl, if_pos rfl, List.map_nil, List.append_nil]

theorem reportEnds_eq (walk : Walk) (pins : PinResolver) (c : Connection) :
    walk.reportEnds pins c = ⟨walk.reported ++ (pins.endViolations c).map Violation.toDiagnostic, walk.fed⟩ := by
  rw [reportEnds, reportUnless_eq, reportUnless_eq, PinResolver.endViolations, List.map_append, List.append_assoc]

theorem reportPins_eq (walk : Walk) (pins : PinResolver) (c : Connection) :
    walk.reportPins pins c = ⟨walk.reported ++ (pins.pinViolations c).map Violation.toDiagnostic, walk.fed⟩ := by
  unfold reportPins PinResolver.pinViolations
  cases pins.outputType? c.source c.sourcePin <;> cases pins.inputType? c.destination c.destinationPin
  case some.some sourceType destinationType => exact reportUnless_eq ..
  all_goals simp [reportUnless]

/-- A step reports the verdict on a connection, and feeds its pin if its ends are known. -/
theorem step_eq (pins : PinResolver) (walk : Walk) (c : Connection) :
    step pins walk c =
      ⟨walk.reported ++ (pins.connectionViolations c).map Violation.toDiagnostic, walk.fed ++ pins.fedPins [c]⟩ := by
  have known : (!pins.contains c.source || !pins.contains c.destination) = !pins.containsBoth c := by
    rw [PinResolver.containsBoth, Bool.not_and]
  rw [step, known, reportEnds_eq, PinResolver.connectionViolations_eq]
  cases both : pins.containsBoth c with
  | false =>
    have unfed : pins.fedPins [c] = [] := by simp [PinResolver.fedPins, both]
    rw [unfed, List.append_nil]
    rfl
  | true =>
    have fed : pins.fedPins [c] = [(c.destination, c.destinationPin)] := by simp [PinResolver.fedPins, both]
    obtain ⟨hs, hd⟩ := PinResolver.containsBoth_iff.1 both
    have silent : pins.endViolations c = [] := by rw [PinResolver.endViolations, if_pos hs, if_pos hd]; rfl
    simp only [silent, List.map_nil, List.append_nil, reportPins_eq, fed]
    rfl

/-- A walk reports all verdicts in turn, and feeds the pins at which connections between known ends arrive. -/
theorem foldl_step (pins : PinResolver) (walk : Walk) (connections : List Connection) :
    connections.foldl (step pins) walk =
      ⟨walk.reported ++ (connections.flatMap pins.connectionViolations).map Violation.toDiagnostic,
        walk.fed ++ pins.fedPins connections⟩ := by
  induction connections generalizing walk with
  | nil => simp [PinResolver.fedPins]
  | cons c rest ih =>
    have cut : pins.fedPins (c :: rest) = pins.fedPins [c] ++ pins.fedPins rest := by
      rw [PinResolver.fedPins, PinResolver.fedPins, PinResolver.fedPins, ← List.map_append, ← List.filter_append,
        List.singleton_append]
    rw [List.foldl_cons, step_eq, ih, cut, List.flatMap_cons, List.map_append, List.append_assoc, List.append_assoc]

end Walk

namespace Specification

/-- The walk over the connections of a specification, behind what has been reported before. -/
def walk (spec : Specification) (catalogue : Catalogue) (reported : List Diagnostic) : Walk :=
  spec.connections.foldl (Walk.step (PinResolver.new spec catalogue)) ⟨reported, []⟩

theorem walk_eq (spec : Specification) (catalogue : Catalogue) (reported : List Diagnostic) :
    spec.walk catalogue reported =
      ⟨reported ++ (spec.connections.flatMap (PinResolver.new spec catalogue).connectionViolations).map
          Violation.toDiagnostic,
        (PinResolver.new spec catalogue).fedPins spec.connections⟩ := by
  rw [walk, Walk.foldl_step, List.nil_append]

/-- A diagnosis goes on with what the walk has in hand at its end. -/
theorem validate_eq_walk (spec : Specification) (catalogue : Catalogue) :
    spec.validate catalogue =
      (spec.walk catalogue ((spec.assetTypeViolations catalogue ++ spec.interfaceViolations catalogue ++
        spec.variableViolations catalogue ++ spec.nodeViolations catalogue).map Violation.toDiagnostic)).reported ++
        (spec.defaultViolations catalogue ++ spec.requiredInputViolations catalogue (spec.walk catalogue []).fed ++
          spec.interfacePinViolations catalogue).map Violation.toDiagnostic := by
  rw [walk_eq, walk_eq, ← List.map_append, ← List.map_append, validate, violations]
  simp only [List.append_assoc]

/-- Every connection is judged on its own: the walk over the connections reports the one verdict on each of them, in
their order and behind what has been reported before, and each verdict is what would be reported if there were no other
connection.  The pins that are fed are those at which connections between known ends arrive.  A report of pin types that
do not go together lists all types that the source may feed, so that the type of the destination is not among them, and
the type of the source is unless nobody knows it. -/
theorem walk_verdicts (spec : Specification) (catalogue : Catalogue) (reported : List Diagnostic) :
    ∃ verdict : Connection → List Violation,
      (∀ c violations, spec.Verdict catalogue c violations ↔ verdict c = violations) ∧
      (spec.walk catalogue reported).reported =
        (reported ++ spec.connections.flatMap fun c => (verdict c).map Violation.toDiagnostic) ∧
      (∀ c, (walk { spec with connections := [c] } catalogue []).reported = (verdict c).map Violation.toDiagnostic) ∧
      (∀ endpoint pin, (endpoint, pin) ∈ (spec.walk catalogue reported).fed ↔
        ∃ c ∈ spec.connections, spec.Declares c.source ∧ spec.Declares c.destination ∧ c.destination = endpoint ∧
          c.destinationPin = pin) ∧
      (∀ c ∈ spec.connections, ∀ d ∈ (verdict c).map Violation.toDiagnostic, d.code = "V012" →
        ∃ sourceType destinationType targets,
          spec.FirstGives catalogue c.source c.sourcePin sourceType ∧
          spec.FirstTakes catalogue c.destination c.destinationPin destinationType ∧
          d.message = "Type mismatch: " ++ ("'" ++ (c.source.name ++ "." ++ c.sourcePin) ++ "'") ++ " outputs " ++
            ("'" ++ sourceType ++ "'") ++ " but " ++ ("'" ++ (c.destination.name ++ "." ++ c.destinationPin) ++ "'") ++
            " expects " ++ ("'" ++ destinationType ++ "'") ++ " (compatible targets for " ++
            ("'" ++ sourceType ++ "'") ++ ": " ++ Quoted.list targets ++ ")" ∧
          targets.Pairwise (· < ·) ∧ (∀ pinType, pinType ∈ targets ↔ catalogue.Feeds sourceType pinType) ∧
          destinationType ∉ targets ∧ (sourceType ∈ targets ↔ sourceType ∈ catalogue.pinTypes)) ∧
      spec.validate catalogue =
        (spec.walk catalogue ((spec.assetTypeViolations catalogue ++ spec.interfaceViolations catalogue ++
          spec.variableViolations catalogue ++ spec.nodeViolations catalogue).map Violation.toDiagnostic)).reported ++
          (spec.defaultViolations catalogue ++ spec.requiredInputViolations catalogue (spec.walk catalogue []).fed ++
            spec.interfacePinViolations catalogue).map Violation.toDiagnostic := by
  refine ⟨(PinResolver.new spec catalogue).connectionViolations, fun c violations => PinResolver.verdict_iff, ?_,
    fun c => ?_, fun endpoint pin => ?_, fun c _ d hd code => ?_, spec.validate_eq_walk catalogue⟩
  · rw [walk_eq, List.map_flatMap]
  · have alone : (PinResolver.new { spec with connections := [c] } catalogue).connectionViolations c =
        (PinResolver.new spec catalogue).connectionViolations c :=
      PinResolver.connectionViolations_congr ⟨fun _ => rfl, fun _ => rfl, fun _ => rfl, fun _ => rfl⟩ c
    rw [walk_eq, List.nil_append, List.flatMap_singleton, alone]
  · simp only [walk_eq, PinResolver.mem_fedPins_iff, PinResolver.containsBoth_iff, PinResolver.contains_new_iff,
      and_assoc]
  · obtain ⟨v, hv, rfl⟩ := List.mem_map.1 hd
    obtain ⟨c', sourceType, destinationType, targets, rfl⟩ := Violation.eq_typeMismatch_of_code code
    have verdict := PinResolver.verdict_connectionViolations spec catalogue c
    generalize (PinResolver.new spec catalogue).connectionViolations c = violations at hv verdict
    cases verdict with
    | mismatch gives takes clash listed =>
      simp only [List.mem_singleton, Violation.typeMismatch.injEq] at hv
      obtain ⟨rfl, rfl, rfl, rfl⟩ := hv
      refine ⟨_, _, _, gives, takes, rfl, listed.ascending, listed.mem_iff, fun h => clash ((listed.mem_iff _).1 h), ?_⟩
      exact (listed.mem_iff _).trans ⟨And.left, fun known => ⟨known, .inl rfl⟩⟩
    | _ => simp at hv

/-- One sine with three connections that go wrong at their ends, at their pins and in their types, and one that goes
from the sine to itself. -/
def misrouted : Specification :=
  { empty "Misrouted" "Patch" with
    nodes := [.ofKind "osc" (.external "Sine")]
    connections := [⟨.node "ghost", "Out", .node "spirit", "In"⟩, ⟨.node "osc", "Sound", .node "osc", "Tint"⟩,
      ⟨.node "osc", "Audio", .node "osc", "Sync"⟩, ⟨.node "osc", "Audio", .node "osc", "Modulation"⟩] }

/-- The unknown pins count as fed, and the unknown nodes do not. -/
theorem walk_verdicts_misrouted :
    (misrouted.walk .builtIn [.ofParse "P001" "before"]).reported =
      .ofParse "P001" "before" ::
        [Violation.danglingSource (.node "ghost"), .danglingDestination (.node "spirit"),
          .unknownOutput (.node "osc") "Sound", .unknownInput (.node "osc") "Tint",
          .typeMismatch ⟨.node "osc", "Audio", .node "osc", "Sync"⟩ "Audio" "Trigger" ["Audio", "Float"]].map
          Violation.toDiagnostic ∧
    (Endpoint.node "osc", "Tint") ∈ (misrouted.walk .builtIn [.ofParse "P001" "before"]).fed ∧
    (Endpoint.node "spirit", "In") ∉ (misrouted.walk .builtIn [.ofParse "P001" "before"]).fed := by
  obtain ⟨verdict, exact, reported, -, fed, -⟩ := walk_verdicts misrouted .builtIn [.ofParse "P001" "before"]
  have judged (c : Connection) : verdict c = (PinResolver.new misrouted .builtIn).connectionViolations c :=
    (exact c _).1 (PinResolver.verdict_connectionViolations ..)
  have osc : misrouted.Declares (.node "osc") := ⟨_, List.mem_cons_self, rfl⟩
  have spirit : ¬misrouted.Declares (.node "spirit") := by
    rintro ⟨node, hn, same⟩
    obtain rfl := List.mem_singleton.1 hn
    revert same
    decide
  refine ⟨?_, (fed _ _).2 ⟨_, List.mem_cons_of_mem _ List.mem_cons_self, osc, osc, rfl, rfl⟩, fun h => ?_⟩
  · rw [reported]
    simp only [judged, PinResolver.connectionViolations_eq, PinResolver.containsBoth, PinResolver.endViolations,
      PinResolver.pinViolations, misrouted, List.flatMap_cons, PinResolver.contains_node, PinResolver.outputType?_node,
      PinResolver.inputType?_node]
    decide +kernel
  · obtain ⟨c, -, -, declared, same, -⟩ := (fed _ _).1 h
    exact spirit (same ▸ declared)

end Specification

end AudioGraph
