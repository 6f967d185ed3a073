import AudioGraph.Specification.Edit
import AudioGraph.Proofs.Diagnosis.Order

/-!
# What a further connection changes

A connection that is added to a specification is reported for itself, behind the connections that were there.  Apart
from that it acts at a distance, on the inputs that nothing has fed so far: if its ends are known, the input at which it
arrives counts as fed, even if there is no such input or the types do not go together.  If an end is unknown, it feeds
nothing.

* (fed inputs) One more connection takes away the reports of the inputs that it feeds (`unfedInputs_of_supplied`).
* (stages) Only the stages of connections and of required inputs change (`violations_addConnection`).
-/

namespace AudioGraph

/-- A violation is about an input at which a connection arrives. -/
def Connection.supplies (c : Connection) : Violation → Bool
  | .unfedInput id _ pin => c.destination == .node id && c.destinationPin == pin
  | _ => false

theorem Connection.supplies_eq_false {c : Connection} {v : Violation} (h : v.stage ≠ 6) : c.supplies v = false := by
  cases v with
  | unfedInput => exact absurd rfl h
  | _ => rfl

/-! ### Fed inputs -/

theorem Node.unfedInputs_of_supplied (node : Node) (catalogue : Catalogue) (fed : String → Bool) (known : Bool)
    (c : Connection) :
    node.unfedInputs catalogue
        (fun pin => fed pin || known && c.destination == .node node.id && c.destinationPin == pin) =
      (node.unfedInputs catalogue fed).filter fun v => !(known && c.supplies v) := by
  unfold unfedInputs
  cases catalogue.signature? node with
  | none => rfl
  | some signature =>
    simp only [List.filter_map, List.filter_filter, Function.comp_def, Connection.supplies]
    refine congrArg _ (List.filter_congr fun pin _ => ?_)
    rw [Bool.not_or, Bool.and_assoc known]
    ac_rfl

namespace Specification

variable {spec : Specification} {catalogue : Catalogue} {c : Connection}

theorem samePins_addConnection : (spec.addConnection c).SamePins spec :=
  ⟨fun _ => rfl, fun _ => rfl, fun _ => rfl, fun _ => rfl⟩

/-! ### Stages -/

theorem connections_addConnection :
    (spec.addConnection c).stageViolations catalogue 4 =
      spec.stageViolations catalogue 4 ++ (PinResolver.new spec catalogue).connectionViolations c := by
  have same : (PinResolver.new (spec.addConnection c) catalogue).connectionViolations =
      (PinResolver.new spec catalogue).connectionViolations :=
    funext (PinResolver.connectionViolations_congr samePins_addConnection)
  rw [stageViolations, stageViolations, same]
  exact List.flatMap_append.trans (congrArg _ (List.flatMap_singleton ..))

theorem requiredInputs_addConnection :
    (spec.addConnection c).stageViolations catalogue 6 =
      (spec.stageViolations catalogue 6).filter
        fun v => !((PinResolver.new spec catalogue).containsBoth c && c.supplies v) := by
  have fed : (PinResolver.new (spec.addConnection c) catalogue).fedPins (spec.addConnection c).connections =
      (PinResolver.new spec catalogue).fedPins (spec.connections ++ [c]) :=
    PinResolver.fedPins_congr samePins_addConnection _
  have supplied (node : Node) :=
    node.unfedInputs_of_supplied catalogue ((PinResolver.new spec catalogue).feeds spec.connections node.id)
      ((PinResolver.new spec catalogue).containsBoth c) c
  rw [stageViolations, stageViolations, fed, requiredInputViolations_eq_flatMap, requiredInputViolations_eq_flatMap,
    List.filter_flatMap]
  refine List.flatMap_congr fun node _ => ?_
  rw [← supplied]
  congr 1
  funext pin
  simp only [PinResolver.feeds, List.any_append, List.any_cons, List.any_nil, Bool.or_false]

theorem violations_addConnection :
    (spec.addConnection c).violations catalogue =
      spec.stageViolations catalogue 0 ++ spec.stageViolations catalogue 1 ++ spec.stageViolations catalogue 2 ++
        spec.stageViolations catalogue 3 ++
        (spec.stageViolations catalogue 4 ++ (PinResolver.new spec catalogue).connectionViolations c) ++
        spec.stageViolations catalogue 5 ++
        ((spec.stageViolations catalogue 6).filter
          fun v => !((PinResolver.new spec catalogue).containsBoth c && c.supplies v)) ++
        spec.stageViolations catalogue 7 := by
  have kept (n : Nat) (lists : (spec.addConnection c).SameLists spec n) :
      (spec.addConnection c).stageViolations catalogue n = spec.stageViolations catalogue n :=
    stageViolations_congr samePins_addConnection lists
  rw [violations_eq_append, kept 0 rfl, kept 1 rfl, kept 2 rfl, kept 3 rfl, connections_addConnection, kept 5 rfl,
    requiredInputs_addConnection, kept 7 rfl]

/-- A connection that is added is reported behind all that is wrong with what is there, and before all that is missing.
If one of its ends is unknown, nothing else changes.  If both are known, then the inputs at which it arrives are no
longer reported as unfed, whatever is wrong with its pins. -/
theorem validate_addConnection (spec : Specification) (catalogue : Catalogue) (c : Connection) :
    ∃ before after : List Violation, spec.violations catalogue = before ++ after ∧
      (∀ v ∈ before, v.kind ≠ .completeness) ∧ (∀ v ∈ after, v.kind = .completeness) ∧
      (¬(spec.Declares c.source ∧ spec.Declares c.destination) →
        (spec.addConnection c).validate catalogue =
          (before ++ (PinResolver.new spec catalogue).endViolations c ++ after).map Violation.toDiagnostic) ∧
      (spec.Declares c.source ∧ spec.Declares c.destination →
        (spec.addConnection c).validate catalogue =
          (before ++ (PinResolver.new spec catalogue).pinViolations c ++ after.filter fun v => !c.supplies v).map
            Violation.toDiagnostic) := by
  have known : (PinResolver.new spec catalogue).containsBoth c = true ↔
      spec.Declares c.source ∧ spec.Declares c.destination := by
    rw [PinResolver.containsBoth_iff, PinResolver.contains_new_iff, PinResolver.contains_new_iff]
  -- no violation but one of the required inputs is about an input at which the connection arrives
  have kept (n : Nat) (h : n ≠ 6) :
      ((spec.stageViolations catalogue n).filter fun v => !c.supplies v) = spec.stageViolations catalogue n := by
    refine List.filter_eq_self.2 fun v hv => ?_
    rw [Connection.supplies_eq_false (by rwa [stage_of_mem_stageViolations hv]), Bool.not_false]
  refine ⟨spec.stageViolations catalogue 0 ++ spec.stageViolations catalogue 1 ++ spec.stageViolations catalogue 2 ++
      spec.stageViolations catalogue 3 ++ spec.stageViolations catalogue 4,
    spec.stageViolations catalogue 5 ++ spec.stageViolations catalogue 6 ++ spec.stageViolations catalogue 7,
    ?_, fun v hv => ?_, fun v hv => ?_, fun unknown => ?_, fun declared => ?_⟩
  · simp only [violations_eq_append, List.append_assoc]
  · simp only [List.mem_append] at hv
    rw [Ne, Violation.kind_eq_completeness_iff]
    obtain (((h | h) | h) | h) | h := hv <;> simp [stage_of_mem_stageViolations h]
  · simp only [List.mem_append] at hv
    rw [Violation.kind_eq_completeness_iff]
    obtain (h | h) | h := hv <;> simp [stage_of_mem_stageViolations h]
  · rw [← known, Bool.not_eq_true] at unknown
    simp only [validate, violations_addConnection, PinResolver.connectionViolations_eq, unknown, Bool.false_and,
      Bool.not_false, List.filter_true, Bool.false_eq_true, ↓reduceIte, List.append_assoc]
  · simp only [validate, violations_addConnection, PinResolver.connectionViolations_eq, known.2 declared, Bool.true_and,
      ↓reduceIte, List.filter_append, kept 5 (by decide), kept 7 (by decide), List.append_assoc]

/-- Two filters under one id, of which the second has no cutoff frequency, and nothing to filter but a trigger. -/
def starved : Specification :=
  let filter := (Node.ofKind "filter" (.external "Biquad Filter")).withDefault "Bandwidth" (.num (.int 1))
  { empty "Starved" "Patch" with
    inputs := [⟨"Play", "Trigger", none⟩]
    nodes := [filter.withDefault "Cutoff Frequency" (.num (.int 800)), filter] }

/-- The trigger does not go with the filters, and yet they are both fed by it.  A connection from nowhere feeds neither
of them. -/
theorem validate_addConnection_starved :
    starved.violations .builtIn = [.duplicateNode "filter", .unfedInput "filter" "Biquad Filter" "In",
      .unfedInput "filter" "Biquad Filter" "In", .unfedInput "filter" "Biquad Filter" "Cutoff Frequency"] ∧
    (starved.Declares .boundary ∧ starved.Declares (.node "filter")) ∧
    (starved.addConnection ⟨.boundary, "Play", .node "filter", "In"⟩).validate .builtIn =
      [Violation.duplicateNode "filter",
        .typeMismatch ⟨.boundary, "Play", .node "filter", "In"⟩ "Trigger" "Audio" ["Trigger"],
        .unfedInput "filter" "Biquad Filter" "Cutoff Frequency"].map Violation.toDiagnostic ∧
    ¬(starved.Declares (.node "ghost") ∧ starved.Declares (.node "filter")) ∧
    (starved.addConnection ⟨.node "ghost", "Out", .node "filter", "In"⟩).validate .builtIn =
      [Violation.duplicateNode "filter", .danglingSource (.node "ghost"),
        .unfedInput "filter" "Biquad Filter" "In", .unfedInput "filter" "Biquad Filter" "In",
        .unfedInput "filter" "Biquad Filter" "Cutoff Frequency"].map Violation.toDiagnostic := by
  have whole : starved.violations .builtIn = [.duplicateNode "filter", .unfedInput "filter" "Biquad Filter" "In",
      .unfedInput "filter" "Biquad Filter" "In", .unfedInput "filter" "Biquad Filter" "Cutoff Frequency"] := by
    decide +kernel
  have known : starved.Declares .boundary ∧ starved.Declares (.node "filter") :=
    ⟨trivial, _, List.mem_cons_self, rfl⟩
  -- the violations are known, and so it is known where they are cut
  have cut {before after : List Violation} (split : starved.violations .builtIn = before ++ after)
      (early : ∀ v ∈ before, v.kind ≠ .completeness) (late : ∀ v ∈ after, v.kind = .completeness) :=
    Violation.eq_filter_of_stage (whole.symm.trans split)
      (fun v hv => Nat.not_le.1 (mt Violation.kind_eq_completeness_iff.2 (early v hv)))
      fun v hv => Violation.kind_eq_completeness_iff.1 (late v hv)
  have unknown : ¬(starved.Declares (.node "ghost") ∧ starved.Declares (.node "filter")) := by
    rintro ⟨⟨node, hn, same⟩, -⟩
    exact absurd same (by revert node; decide)
  refine ⟨whole, known, ?_, unknown, ?_⟩
  · obtain ⟨before, after, split, hb, ha, -, fed⟩ :=
      validate_addConnection starved .builtIn ⟨.boundary, "Play", .node "filter", "In"⟩
    obtain ⟨early, late⟩ := cut split hb ha
    rw [fed known, early, late, PinResolver.pinViolations, PinResolver.inputType?_node]
    decide +kernel
  · obtain ⟨before, after, split, hb, ha, loose, -⟩ :=
      validate_addConnection starved .builtIn ⟨.node "ghost", "Out", .node "filter", "In"⟩
    obtain ⟨early, late⟩ := cut split hb ha
    rw [loose unknown, early, late, PinResolver.endViolations, PinResolver.contains_node, PinResolver.contains_node]
    decide +kernel

end Specification

end AudioGraph
