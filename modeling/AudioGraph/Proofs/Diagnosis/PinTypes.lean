import AudioGraph.Proofs.Diagnosis.WellFormed

/-!
# The pin types that meet at a connection

A catalogue is only loaded if it declares every pin type that it names.  Specifications name pin types, too.  Those of
variables are checked, but those on the boundary are not, and a node that writes a variable is triggered at a pin of a
type that the catalogue need not have.  All the same, along a connection without faults values go from a declared type
to a declared type, for only declared types feed others, and what they feed is declared.

* (catalogues) Only declared types meet (`Catalogue.Feeds.declared`).
* (undeclared types) Whether types on the boundary are declared makes no difference but to connections between pins that
  do not go together, and only the types of variables are checked by themselves (`filter_violations_retyped`).
* (connections) Both make `declared_pinTypes_of_faultless`.
-/

namespace AudioGraph

open Violation (ifNot)

namespace Catalogue

variable {catalogue : Catalogue}

/-! ### Catalogues -/

/-- A closed catalogue declares what its compatibility table lists. -/
theorem Closed.mem_pinTypes_of_listed (closed : catalogue.Closed) {source target : String} {targets : NameSet}
    (row : catalogue.compatibility.get? source = some targets) (ht : target ∈ targets) :
    target ∈ catalogue.pinTypes := by
  have named : (.compatibility source, target) ∈ rowPlaces source targets :=
    List.mem_map.2 ⟨target, List.mem_cons_of_mem _ ht, rfl⟩
  have place : (.compatibility source, target) ∈ catalogue.places :=
    List.mem_append_left _ (List.mem_append_left _ (List.mem_flatMap.2 ⟨_, Entries.mem_of_get? row, named⟩))
  exact closed _ place

/-- In a closed catalogue a declared type feeds declared types. -/
theorem Feeds.declared (closed : catalogue.Closed) {source destination : String}
    (feeds : catalogue.Feeds source destination) :
    source ∈ catalogue.pinTypes ∧ destination ∈ catalogue.pinTypes := by
  obtain ⟨declared, rfl | ⟨targets, row, listed⟩⟩ := feeds
  · exact ⟨declared, declared⟩
  · exact ⟨declared, closed.mem_pinTypes_of_listed row listed⟩

/-- The catalogue with other pin types, which may feed others than they did. -/
def retyped (catalogue : Catalogue) (pinTypes : NameSet) (compatibility : Table NameSet) : Catalogue :=
  { catalogue with pinTypes := pinTypes, compatibility := compatibility }

end Catalogue

/-- The specification with other types on the boundary. -/
def Specification.retyped (spec : Specification) (inputType : GraphInput → String) (outputType : GraphOutput → String) :
    Specification :=
  { spec with
    inputs := spec.inputs.map fun pin => { pin with pinType := inputType pin }
    outputs := spec.outputs.map fun pin => { pin with pinType := outputType pin } }

namespace Violation

/-- Whether a violation is something else than types that do not go together. -/
def notMismatch (violation : Violation) : Bool := violation.code != "V012"

theorem filter_ifNot_of_notMismatch {violation : Violation} (h : violation.notMismatch = true) (fine : Bool) :
    (ifNot fine violation).filter notMismatch = ifNot fine violation := by
  cases fine with
  | true => rfl
  | false => exact List.filter_cons_of_pos h

end Violation

/-! ### Undeclared types -/

namespace PinResolver

/-- What else than a mismatch is wrong with a connection: its ends are not there, or its pins are not. -/
theorem filter_connectionViolations (pins : PinResolver) (c : Connection) :
    (pins.connectionViolations c).filter Violation.notMismatch =
      if pins.containsBoth c then
        ifNot (pins.outputType? c.source c.sourcePin).isSome (.unknownOutput c.source c.sourcePin) ++
          ifNot (pins.inputType? c.destination c.destinationPin).isSome
            (.unknownInput c.destination c.destinationPin)
      else
        ifNot (pins.contains c.source) (.danglingSource c.source) ++
          ifNot (pins.contains c.destination) (.danglingDestination c.destination) := by
  rw [connectionViolations]
  split
  · split
    · next sourceType destinationType output input =>
      rw [output, input]
      cases pins.catalogue.isCompatible sourceType destinationType <;> rfl
    · rw [List.filter_append, Violation.filter_ifNot_of_notMismatch rfl, Violation.filter_ifNot_of_notMismatch rfl]
  · rw [List.filter_append, Violation.filter_ifNot_of_notMismatch rfl, Violation.filter_ifNot_of_notMismatch rfl]

end PinResolver

section Retyped

variable (spec : Specification) (catalogue : Catalogue) (inputType : GraphInput → String)
  (outputType : GraphOutput → String) (pinTypes : NameSet) (compatibility : Table NameSet)

namespace Specification

theorem isSome_findInput?_retyped (name : String) :
    ((spec.retyped inputType outputType).findInput? name).isSome = (spec.findInput? name).isSome := by
  have found := find?_map_of_named GraphInput.name (fun pin => { pin with pinType := inputType pin }) (fun _ => rfl)
    name spec.inputs
  exact (congrArg Option.isSome found).trans Option.isSome_map

theorem isSome_findOutput?_retyped (name : String) :
    ((spec.retyped inputType outputType).findOutput? name).isSome = (spec.findOutput? name).isSome := by
  have found := find?_map_of_named GraphOutput.name (fun pin => { pin with pinType := outputType pin }) (fun _ => rfl)
    name spec.outputs
  exact (congrArg Option.isSome found).trans Option.isSome_map

end Specification

namespace PinResolver

theorem isSome_outputType?_retyped (endpoint : Endpoint) (pin : String) :
    ((new (spec.retyped inputType outputType) (catalogue.retyped pinTypes compatibility)).outputType?
      endpoint pin).isSome = ((new spec catalogue).outputType? endpoint pin).isSome := by
  cases endpoint with
  | boundary =>
    rw [outputType?, outputType?, Option.isSome_map, Option.isSome_map]
    exact spec.isSome_findInput?_retyped inputType outputType pin
  | node id => rfl

theorem isSome_inputType?_retyped (endpoint : Endpoint) (pin : String) :
    ((new (spec.retyped inputType outputType) (catalogue.retyped pinTypes compatibility)).inputType?
      endpoint pin).isSome = ((new spec catalogue).inputType? endpoint pin).isSome := by
  cases endpoint with
  | boundary =>
    rw [inputType?, inputType?, Option.isSome_map, Option.isSome_map]
    exact spec.isSome_findOutput?_retyped inputType outputType pin
  | node id => rfl

/-- Other types make no difference to a connection, but for mismatches. -/
theorem filter_connectionViolations_retyped (c : Connection) :
    ((new (spec.retyped inputType outputType) (catalogue.retyped pinTypes compatibility)).connectionViolations
      c).filter Violation.notMismatch = ((new spec catalogue).connectionViolations c).filter Violation.notMismatch := by
  rw [filter_connectionViolations, filter_connectionViolations, isSome_outputType?_retyped, isSome_inputType?_retyped]
  rfl

end PinResolver

namespace Specification

theorem variableViolations_retyped
    (declared : ∀ v ∈ spec.vars, v.pinType ∈ pinTypes ↔ v.pinType ∈ catalogue.pinTypes) :
    (spec.retyped inputType outputType).variableViolations (catalogue.retyped pinTypes compatibility) =
      spec.variableViolations catalogue := by
  refine List.flatMap_congr fun m hm => ?_
  have var : m.1 ∈ spec.vars := by
    rw [← map_fst_markRepeatsFrom Variable.name [] spec.vars]
    exact List.mem_map_of_mem hm
  have known : (catalogue.retyped pinTypes compatibility).isPinType m.1.pinType = catalogue.isPinType m.1.pinType :=
    decide_eq_decide.2 (declared m.1 var)
  simp only [known]

theorem interfacePinViolations_retyped :
    (spec.retyped inputType outputType).interfacePinViolations (catalogue.retyped pinTypes compatibility) =
      spec.interfacePinViolations catalogue := by
  simp only [interfacePinViolations, isSome_findInput?_retyped, isSome_findOutput?_retyped]
  rfl

/-- Other types make no difference, but for mismatches, if the types of variables are declared as they were. -/
theorem filter_violations_retyped
    (declared : ∀ v ∈ spec.vars, v.pinType ∈ pinTypes ↔ v.pinType ∈ catalogue.pinTypes) :
    ((spec.retyped inputType outputType).violations (catalogue.retyped pinTypes compatibility)).filter
      Violation.notMismatch = (spec.violations catalogue).filter Violation.notMismatch := by
  simp only [violations, List.filter_append, List.filter_flatMap, variableViolations_retyped _ _ _ _ _ _ declared,
    PinResolver.filter_connectionViolations_retyped, interfacePinViolations_retyped]
  rfl

end Specification

end Retyped

/-! ### Connections without faults -/

namespace Specification

/-- In a catalogue that was loaded, a connection without faults goes from a declared type to a declared type, which is
the same or is listed for it.  It is only there that undeclared types are found: if the boundary gets other types, and
the catalogue declares and lists others, but for those of variables, then nothing is reported otherwise than it was,
except mismatches along connections. -/
theorem declared_pinTypes_of_faultless {text : String} {catalogue : Catalogue}
    (loaded : Catalogue.ofText text = .ok catalogue) (spec : Specification) :
    (∀ c ∈ spec.connections, (PinResolver.new spec catalogue).connectionViolations c = [] →
      ∃ sourceType destinationType,
        (PinResolver.new spec catalogue).outputType? c.source c.sourcePin = some sourceType ∧
        (PinResolver.new spec catalogue).inputType? c.destination c.destinationPin = some destinationType ∧
        sourceType ∈ catalogue.pinTypes ∧ destinationType ∈ catalogue.pinTypes ∧
        (destinationType = sourceType ∨
          ∃ targets, catalogue.compatibility.get? sourceType = some targets ∧ destinationType ∈ targets)) ∧
    ∀ (inputType : GraphInput → String) (outputType : GraphOutput → String) (pinTypes : NameSet)
      (compatibility : Table NameSet), (∀ v ∈ spec.vars, v.pinType ∈ pinTypes ↔ v.pinType ∈ catalogue.pinTypes) →
      ((spec.retyped inputType outputType).validate (catalogue.retyped pinTypes compatibility)).filter
        (·.code != "V012") = (spec.validate catalogue).filter (·.code != "V012") := by
  refine ⟨fun c _ faultless => ?_, fun inputType outputType pinTypes compatibility declared => ?_⟩
  · obtain ⟨-, sourceType, destinationType, gives, takes, fits⟩ :=
      PinResolver.connectionViolations_eq_nil_iff.1 faultless
    have feeds : catalogue.Feeds sourceType destinationType := Catalogue.isCompatible_iff_feeds.1 fits
    obtain ⟨source, destination⟩ := feeds.declared (Catalogue.closed_of_ofText loaded)
    exact ⟨sourceType, destinationType, gives, takes, source, destination, feeds.2.imp_left Eq.symm⟩
  · rw [validate, validate, List.filter_map, List.filter_map]
    exact congrArg (List.map Violation.toDiagnostic)
      (filter_violations_retyped spec catalogue inputType outputType pinTypes compatibility declared)

/-- The text of a catalogue in which values control gains. -/
def gainText : String :=
  "\x7b\"asset_types\": [\"Patch\"], \"pin_types\": [\"Float\", \"Gain\"], " ++
    "\"compatibility\": \x7b\"Float\": [\"Gain\"]\x7d\x7d"

/-- The catalogue of the text. -/
def gains : Catalogue where
  assetTypes := .ofList ["Patch"]
  pinTypes := .ofList ["Float", "Gain"]
  compatibility := .ofList [("Float", .ofList ["Gain"])]
  interfaces := .empty
  nodeTypes := .empty

/-- A level sets a gain.  So would noise, of which the catalogue knows nothing, at a trigger, of which it knows nothing
either. -/
def leveled : Specification where
  name := "Leveled"
  assetType := "Patch"
  interfaces := []
  vars := [⟨"Gain", "Gain", none⟩]
  inputs := [⟨"Level", "Float", none⟩, ⟨"Hiss", "Noise", none⟩]
  outputs := []
  nodes := [.ofKind "set" (.write "Gain")]
  connections := [⟨.boundary, "Level", .node "set", "Value"⟩, ⟨.boundary, "Hiss", .node "set", "Execute"⟩]

theorem declared_pinTypes_leveled :
    Catalogue.ofText gainText = .ok gains ∧
    (∃ sourceType destinationType, (PinResolver.new leveled gains).outputType? .boundary "Level" = some sourceType ∧
      (PinResolver.new leveled gains).inputType? (.node "set") "Value" = some destinationType ∧
      sourceType ∈ gains.pinTypes ∧ destinationType ∈ gains.pinTypes ∧
      (destinationType = sourceType ∨
        ∃ targets, gains.compatibility.get? sourceType = some targets ∧ destinationType ∈ targets)) ∧
    ((leveled.retyped (fun _ => "Noise") GraphOutput.pinType).validate
      (gains.retyped (.ofList ["Gain"]) .empty)).filter (·.code != "V012") =
        (leveled.validate gains).filter (·.code != "V012") := by
  have loaded : Catalogue.ofText gainText = .ok gains := by decide +kernel
  have ids : (leveled.nodes.map Node.id).Nodup := by decide
  have wired : leveled.Wired gains ⟨.boundary, "Level", .node "set", "Value"⟩ :=
    wired_of_resolved ids "Float" "Gain" (by decide) (by rw [PinResolver.inputType?_node]; decide) (by decide)
  have faultless := (connectionViolations_eq_nil_iff_wired ids).2 wired
  obtain ⟨flows, others⟩ := declared_pinTypes_of_faultless loaded leveled
  exact ⟨loaded, flows _ (by decide) faultless, others (fun _ => "Noise") GraphOutput.pinType _ _ (by decide)⟩

end Specification

end AudioGraph
