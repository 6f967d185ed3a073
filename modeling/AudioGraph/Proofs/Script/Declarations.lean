import AudioGraph.Proofs.Diagnosis.PinTypes
import AudioGraph.Proofs.Script.References

/-!
# What scripts declare

A script declares variables and boundary pins, and it places nodes.  The checks compare the names of variables and the
ids of nodes, and they ask for the pin types of variables.  For the pins on the boundary they do neither: such a pin is
only looked at where a connection finds it, and a connection finds the first pin of a name.

* (names) The script of an accepted specification declares each variable once and places each node once.  It declares
  each boundary pin once exactly if names are distinct on the boundary, and in any case a connection is checked against
  the first declaration of its pin (`declared_once_of_build`).
* (types) The declared pin types are those of the catalogue exactly if this holds of the boundary pins that no
  connection finds (`pinTypes_of_build`).
-/

namespace AudioGraph

namespace Operation

/-- The graph input that an operation declares. -/
def declaredInput? : Operation → Option String
  | declareGraphInput name .. => some name
  | _ => none

/-- The graph output that an operation declares. -/
def declaredOutput? : Operation → Option String
  | declareGraphOutput name _ => some name
  | _ => none

/-- The pin type of what an operation declares. -/
def declaredPinType? : Operation → Option String
  | declareVariable _ pinType _ | declareGraphInput _ pinType _ | declareGraphOutput _ pinType => some pinType
  | _ => none

theorem phase_of_declaredInput? {op : Operation} {name : String} (h : op.declaredInput? = some name) :
    op.phase = 3 := by
  cases op with
  | declareGraphInput => rfl
  | _ => cases h

theorem phase_of_declaredOutput? {op : Operation} {name : String} (h : op.declaredOutput? = some name) :
    op.phase = 4 := by
  cases op with
  | declareGraphOutput => rfl
  | _ => cases h

end Operation

namespace Specification

variable {spec : Specification} {catalogue : Catalogue} {target : String} {script : List Operation}

/-! ### Names -/

theorem makesNamed_inputs (spec : Specification) (target : String) :
    spec.MakesNamed target 3 Operation.declaredInput? spec.inputs
    (fun pin => .declareGraphInput pin.name pin.pinType pin.default) GraphInput.name where
  lt := by decide
  phase _ _ := Operation.phase_of_declaredInput?
  made := rfl
  named _ := rfl

theorem makesNamed_outputs (spec : Specification) (target : String) :
    spec.MakesNamed target 4 Operation.declaredOutput? spec.outputs
    (fun pin => .declareGraphOutput pin.name pin.pinType) GraphOutput.name where
  lt := by decide
  phase _ _ := Operation.phase_of_declaredOutput?
  made := rfl
  named _ := rfl

/-- The first operation of a script under a name makes the first element of the name. -/
theorem MakesNamed.filter_script_of_isFirst {α : Type} {n : Nat} {key : Operation → Option String} {xs : List α}
    {make : α → Operation} {name : α → String} (h : spec.MakesNamed target n key xs make name) {k : String} {x : α}
    (first : IsFirst name k xs x) :
    ∃ more, (spec.script target).filter (fun op => key op == some k) = make x :: more ∧
      ((xs.map name).Nodup → more = []) := by
  obtain ⟨others, found, only⟩ := first.filter_eq
  rw [h.filter_script, found, List.map_cons]
  refine ⟨_, rfl, fun distinct => ?_⟩
  rw [only distinct, List.map_nil]

theorem connect_mem_script_iff {c : Connection} : .connect c ∈ spec.script target ↔ c ∈ spec.connections := by
  rw [mem_script_iff]
  constructor
  · intro hm
    obtain ⟨other, hc, same⟩ := List.mem_map.1 hm
    exact Operation.connect.inj same ▸ hc
  · intro hc
    exact List.mem_map_of_mem hc

/-- The script of an accepted specification declares no variable twice and places no node twice.  It declares no
boundary pin twice exactly if no two pins on that side of the boundary share their name.  A connection with the boundary
is checked against the type of the first declaration of its pin, which is the only one if names are distinct there. -/
theorem declared_once_of_build (spec : Specification) (catalogue : Catalogue) (target : String)
    (script : List Operation) (built : spec.build catalogue target = .ok script) :
    (script.filterMap Operation.declaredVariable?).Nodup ∧ (script.filterMap Operation.placedNode?).Nodup ∧
    ((script.filterMap Operation.declaredInput?).Nodup ↔ (spec.inputs.map GraphInput.name).Nodup) ∧
    ((script.filterMap Operation.declaredOutput?).Nodup ↔ (spec.outputs.map GraphOutput.name).Nodup) ∧
    (∀ c, .connect c ∈ script → c.source = .boundary → ∃ pinType default more,
      script.filter (fun op => op.declaredInput? == some c.sourcePin) =
        .declareGraphInput c.sourcePin pinType default :: more ∧
      (PinResolver.new spec catalogue).outputType? .boundary c.sourcePin = some pinType ∧
      ((spec.inputs.map GraphInput.name).Nodup → more = [])) ∧
    ∀ c, .connect c ∈ script → c.destination = .boundary → ∃ pinType more,
      script.filter (fun op => op.declaredOutput? == some c.destinationPin) =
        .declareGraphOutput c.destinationPin pinType :: more ∧
      (PinResolver.new spec catalogue).inputType? .boundary c.destinationPin = some pinType ∧
      ((spec.outputs.map GraphOutput.name).Nodup → more = []) := by
  obtain ⟨wellFormed, rfl⟩ := build_eq_ok_iff.1 built
  rw [(makesNamed_vars spec target).filterMap_script, (makesNamed_nodes spec target).filterMap_script,
    (makesNamed_inputs spec target).filterMap_script, (makesNamed_outputs spec target).filterMap_script]
  refine ⟨wellFormed.variableNames, wellFormed.nodeIds, Iff.rfl, Iff.rfl, fun c hc boundary => ?_,
    fun c hc boundary => ?_⟩
  · obtain ⟨sourceType, _, gives, -, -⟩ := wellFormed.connections c (connect_mem_script_iff.1 hc)
    rw [boundary] at gives
    obtain ⟨first⟩ := gives
    obtain ⟨more, declared, only⟩ := (makesNamed_inputs spec target).filter_script_of_isFirst first
    rw [first.name_eq] at declared
    exact ⟨_, _, more, declared, (PinResolver.outputType?_eq_some_iff wellFormed.nodeIds).2 (.boundary first), only⟩
  · obtain ⟨_, destinationType, -, takes, -⟩ := wellFormed.connections c (connect_mem_script_iff.1 hc)
    rw [boundary] at takes
    obtain ⟨first⟩ := takes
    obtain ⟨more, declared, only⟩ := (makesNamed_outputs spec target).filter_script_of_isFirst first
    rw [first.name_eq] at declared
    exact ⟨_, more, declared, (PinResolver.inputType?_eq_some_iff wellFormed.nodeIds).2 (.boundary first), only⟩

/-- The tone has one input, from which its variable is set. -/
theorem declared_once_tone :
    ∃ script, tone.build .builtIn defaultTarget = .ok script ∧
      .connect ⟨.boundary, "Distance", .node "set", "Value"⟩ ∈ script ∧
      (script.filterMap Operation.declaredInput?).Nodup ∧
      ∃ pinType default, script.filter (fun op => op.declaredInput? == some "Distance") =
        [.declareGraphInput "Distance" pinType default] ∧
        (PinResolver.new tone .builtIn).outputType? .boundary "Distance" = some pinType := by
  have built : tone.build .builtIn defaultTarget = .ok (tone.script defaultTarget) :=
    build_eq_ok_iff.2 ⟨wellFormed_tone, rfl⟩
  have connected : .connect ⟨.boundary, "Distance", .node "set", "Value"⟩ ∈ tone.script defaultTarget := by decide
  have names : (tone.inputs.map GraphInput.name).Nodup := by decide
  obtain ⟨-, -, inputs, -, sources, -⟩ := declared_once_of_build tone .builtIn defaultTarget _ built
  obtain ⟨pinType, default, more, declared, checked, none⟩ := sources _ connected rfl
  rw [none names] at declared
  exact ⟨_, built, connected, inputs.2 names, pinType, default, declared, checked⟩

/-- A level that goes through.  Both pins are declared a second time, as triggers. -/
def doubled : Specification :=
  { empty "Doubled" "Patch" with
    inputs := [⟨"Level", "Float", none⟩, ⟨"Level", "Trigger", none⟩]
    outputs := [⟨"Out", "Float"⟩, ⟨"Out", "Trigger"⟩]
    connections := [⟨.boundary, "Level", .boundary, "Out"⟩] }

/-- The level is accepted, and its script declares both of its pins twice, with different types. -/
theorem declared_twice_doubled :
    ∃ script, doubled.build .builtIn defaultTarget = .ok script ∧
      ¬(script.filterMap Operation.declaredInput?).Nodup ∧ ¬(script.filterMap Operation.declaredOutput?).Nodup ∧
      .connect ⟨.boundary, "Level", .boundary, "Out"⟩ ∈ script ∧
      script.filter (fun op => op.declaredInput? == some "Level") =
        [.declareGraphInput "Level" "Float" none, .declareGraphInput "Level" "Trigger" none] ∧
      script.filter (fun op => op.declaredOutput? == some "Out") =
        [.declareGraphOutput "Out" "Float", .declareGraphOutput "Out" "Trigger"] := by
  have wired : ∀ c ∈ doubled.connections, doubled.Wired .builtIn c :=
    List.forall_mem_singleton.2
      (wired_of_resolved (by decide) "Float" "Float" (by decide) (by decide) (by decide +kernel))
  have wellFormed : doubled.WellFormed .builtIn := wellFormed_of_wired wired (by decide +kernel)
  exact ⟨_, build_eq_ok_iff.2 ⟨wellFormed, rfl⟩, by decide, by decide, by decide, by decide, by decide⟩

/-! ### Types -/

/-- A connection finds an input of the graph. -/
def FindsInput (spec : Specification) (pin : GraphInput) : Prop :=
  IsFirst GraphInput.name pin.name spec.inputs pin ∧
    ∃ c ∈ spec.connections, c.source = .boundary ∧ c.sourcePin = pin.name

/-- A connection finds an output of the graph. -/
def FindsOutput (spec : Specification) (pin : GraphOutput) : Prop :=
  IsFirst GraphOutput.name pin.name spec.outputs pin ∧
    ∃ c ∈ spec.connections, c.destination = .boundary ∧ c.destinationPin = pin.name

/-- A connection gives the input that it finds a declared type. -/
theorem WellFormed.declared_of_findsInput (h : spec.WellFormed catalogue) {pin : GraphInput}
    (finds : spec.FindsInput pin) : pin.pinType ∈ catalogue.pinTypes := by
  obtain ⟨first, c, hc, boundary, same⟩ := finds
  obtain ⟨sourceType, destinationType, gives, -, feeds⟩ := h.connections c hc
  rw [boundary, same] at gives
  obtain ⟨found⟩ := gives
  rw [first.unique found]
  exact feeds.1

/-- In a closed catalogue a connection gives the output that it finds a declared type. -/
theorem WellFormed.declared_of_findsOutput (h : spec.WellFormed catalogue) (closed : catalogue.Closed)
    {pin : GraphOutput} (finds : spec.FindsOutput pin) : pin.pinType ∈ catalogue.pinTypes := by
  obtain ⟨first, c, hc, boundary, same⟩ := finds
  obtain ⟨sourceType, destinationType, -, takes, feeds⟩ := h.connections c hc
  rw [boundary, same] at takes
  obtain ⟨found⟩ := takes
  rw [first.unique found]
  exact (feeds.declared closed).2

/-- The pin types that a script declares are those of the variables and of the pins on the boundary. -/
theorem forall_declaredPinType?_iff {P : String → Prop} :
    (∀ op ∈ spec.script target, ∀ pinType, op.declaredPinType? = some pinType → P pinType) ↔
      (∀ v ∈ spec.vars, P v.pinType) ∧ (∀ pin ∈ spec.inputs, P pin.pinType) ∧
        ∀ pin ∈ spec.outputs, P pin.pinType := by
  constructor
  · intro h
    refine ⟨fun v hv => ?_, fun pin hp => ?_, fun pin hp => ?_⟩
    · exact h _ ((makesNamed_vars spec target).mem_script hv) _ rfl
    · exact h _ ((makesNamed_inputs spec target).mem_script hp) _ rfl
    · exact h _ ((makesNamed_outputs spec target).mem_script hp) _ rfl
  · rintro ⟨vars, inputs, outputs⟩ op hm pinType declared
    have made := mem_script_iff.1 hm
    cases op with
    | declareVariable =>
      obtain ⟨v, hv, same⟩ := List.mem_map.1 made
      obtain ⟨-, rfl, -⟩ := Operation.declareVariable.inj same
      exact Option.some.inj declared ▸ vars v hv
    | declareGraphInput =>
      obtain ⟨pin, hp, same⟩ := List.mem_map.1 made
      obtain ⟨-, rfl, -⟩ := Operation.declareGraphInput.inj same
      exact Option.some.inj declared ▸ inputs pin hp
    | declareGraphOutput =>
      obtain ⟨pin, hp, same⟩ := List.mem_map.1 made
      obtain ⟨-, rfl⟩ := Operation.declareGraphOutput.inj same
      exact Option.some.inj declared ▸ outputs pin hp
    | _ => cases declared

/-- In the script that is built for a specification, against a catalogue that was loaded, the types of variables are
declared in the catalogue, and so are the types of the boundary pins that a connection finds.  The other boundary pins
are declared as they are: all types in the script are types of the catalogue exactly if theirs are. -/
theorem pinTypes_of_build {text : String} {catalogue : Catalogue} (loaded : Catalogue.ofText text = .ok catalogue)
    (spec : Specification) (target : String) (script : List Operation)
    (built : spec.build catalogue target = .ok script) :
    (∀ name pinType default, .declareVariable name pinType default ∈ script → pinType ∈ catalogue.pinTypes) ∧
    (∀ pin ∈ spec.inputs, spec.FindsInput pin → pin.pinType ∈ catalogue.pinTypes) ∧
    (∀ pin ∈ spec.outputs, spec.FindsOutput pin → pin.pinType ∈ catalogue.pinTypes) ∧
    ((∀ op ∈ script, ∀ pinType, op.declaredPinType? = some pinType → pinType ∈ catalogue.pinTypes) ↔
      (∀ pin ∈ spec.inputs, ¬spec.FindsInput pin → pin.pinType ∈ catalogue.pinTypes) ∧
        ∀ pin ∈ spec.outputs, ¬spec.FindsOutput pin → pin.pinType ∈ catalogue.pinTypes) := by
  obtain ⟨wellFormed, rfl⟩ := build_eq_ok_iff.1 built
  have closed : catalogue.Closed := Catalogue.closed_of_ofText loaded
  have inputs : ∀ pin, spec.FindsInput pin → pin.pinType ∈ catalogue.pinTypes :=
    fun _ finds => wellFormed.declared_of_findsInput finds
  have outputs : ∀ pin, spec.FindsOutput pin → pin.pinType ∈ catalogue.pinTypes :=
    fun _ finds => wellFormed.declared_of_findsOutput closed finds
  refine ⟨fun name pinType default hm => ?_, fun pin _ => inputs pin, fun pin _ => outputs pin, ?_⟩
  · obtain ⟨v, hv, same⟩ := List.mem_map.1 (mem_script_iff.1 hm)
    obtain ⟨-, rfl, -⟩ := Operation.declareVariable.inj same
    exact wellFormed.variableTypes v hv
  · rw [forall_declaredPinType?_iff]
    constructor
    · rintro ⟨-, allInputs, allOutputs⟩
      exact ⟨fun pin hp _ => allInputs pin hp, fun pin hp _ => allOutputs pin hp⟩
    · rintro ⟨otherInputs, otherOutputs⟩
      refine ⟨wellFormed.variableTypes, fun pin hp => ?_, fun pin hp => ?_⟩
      · by_cases finds : spec.FindsInput pin
        · exact inputs pin finds
        · exact otherInputs pin hp finds
      · by_cases finds : spec.FindsOutput pin
        · exact outputs pin finds
        · exact otherOutputs pin hp finds

/-- A level sets a gain, and nothing uses an input of a type that the catalogue of gains does not have. -/
def hissing : Specification :=
  { empty "Hissing" "Patch" with
    vars := [⟨"Gain", "Gain", none⟩]
    inputs := [⟨"Level", "Float", none⟩, ⟨"Hiss", "Noise", none⟩]
    nodes := [.ofKind "set" (.write "Gain")]
    connections := [⟨.boundary, "Level", .node "set", "Value"⟩] }

private theorem ofText_gainText : Catalogue.ofText gainText = .ok gains := by
  decide +kernel

private theorem build_hissing : hissing.build gains defaultTarget = .ok (hissing.script defaultTarget) := by
  have ids : (hissing.nodes.map Node.id).Nodup := by decide
  have wired : hissing.Wired gains ⟨.boundary, "Level", .node "set", "Value"⟩ :=
    wired_of_resolved ids "Float" "Gain" (by decide) (by rw [PinResolver.inputType?_node]; decide) (by decide)
  exact build_eq_ok_iff.2 ⟨wellFormed_of_wired (List.forall_mem_singleton.2 wired) (by decide), rfl⟩

/-- The level that is used has a type of the catalogue. -/
theorem pinTypes_hissing :
    Catalogue.ofText gainText = .ok gains ∧
    hissing.build gains defaultTarget = .ok (hissing.script defaultTarget) ∧
    .declareVariable "Gain" "Gain" none ∈ hissing.script defaultTarget ∧ "Gain" ∈ gains.pinTypes ∧
    hissing.FindsInput ⟨"Level", "Float", none⟩ ∧ "Float" ∈ gains.pinTypes := by
  obtain ⟨vars, inputs, -, -⟩ := pinTypes_of_build ofText_gainText hissing defaultTarget _ build_hissing
  have declared : .declareVariable "Gain" "Gain" none ∈ hissing.script defaultTarget := by decide
  have finds : hissing.FindsInput ⟨"Level", "Float", none⟩ :=
    ⟨⟨[], _, rfl, rfl, nofun⟩, _, List.mem_singleton_self _, rfl, rfl⟩
  exact ⟨ofText_gainText, build_hissing, declared, vars _ _ _ declared, finds, inputs _ (by decide) finds⟩

/-- The hiss that is not used is declared all the same, as something that the catalogue does not have. -/
theorem undeclared_pinType_hissing :
    Catalogue.ofText gainText = .ok gains ∧
    hissing.build gains defaultTarget = .ok (hissing.script defaultTarget) ∧
    .declareGraphInput "Hiss" "Noise" none ∈ hissing.script defaultTarget ∧ "Noise" ∉ gains.pinTypes :=
  ⟨ofText_gainText, build_hissing, by decide, by decide⟩

end Specification

end AudioGraph
