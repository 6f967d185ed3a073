import AudioGraph.Catalogue.Load
import AudioGraph.Diagnosis.Checks
import AudioGraph.Proofs.Names

/-!
# Reordered catalogues

The tables of a catalogue are looked up by name, so that the order of their entries is nobody's business.  Two
catalogues with the same entries in different orders are the same to everyone who asks them something.

* (answers) They give the same answers (`Reordered.nodeType?`, `Reordered.interface?`, `Reordered.listedTargets`,
  `Reordered.interfaceNames`, and what follows from these).
* (diagnoses) Each check reports the same violations in the same order (`Specification.violations_of_reordered`).
-/

namespace AudioGraph

namespace Catalogue.Reordered

variable {catalogue other : Catalogue}

/-! ### Answers -/

theorem nodeType? (h : catalogue.Reordered other) (name : String) : catalogue.nodeType? name = other.nodeType? name :=
  Table.get?_of_perm h.nodeTypes name

theorem interface? (h : catalogue.Reordered other) (name : String) :
    catalogue.interface? name = other.interface? name :=
  Table.get?_of_perm h.interfaces name

theorem isAssetType (h : catalogue.Reordered other) (name : String) :
    catalogue.isAssetType name = other.isAssetType name := by
  rw [Catalogue.isAssetType, Catalogue.isAssetType, h.assetTypes]

theorem isPinType (h : catalogue.Reordered other) (name : String) :
    catalogue.isPinType name = other.isPinType name := by
  rw [Catalogue.isPinType, Catalogue.isPinType, h.pinTypes]

theorem listedTargets (h : catalogue.Reordered other) (source : String) :
    catalogue.listedTargets source = other.listedTargets source := by
  rw [Catalogue.listedTargets, Catalogue.listedTargets, Table.get?_of_perm h.compatibility]

theorem compatibleTargets (h : catalogue.Reordered other) (source : String) :
    catalogue.compatibleTargets source = other.compatibleTargets source := by
  rw [Catalogue.compatibleTargets, Catalogue.compatibleTargets, h.isPinType, h.listedTargets]

theorem isCompatible (h : catalogue.Reordered other) (source destination : String) :
    catalogue.isCompatible source destination = other.isCompatible source destination := by
  rw [Catalogue.isCompatible, Catalogue.isCompatible, h.isPinType, h.listedTargets]

/-- The names of the interfaces are listed in ascending order, whatever the order of their table. -/
theorem interfaceNames (h : catalogue.Reordered other) : catalogue.interfaceNames = other.interfaceNames := by
  apply NameSet.ext_mem
  intro name
  rw [Catalogue.interfaceNames, Catalogue.interfaceNames, NameSet.mem_ofList, NameSet.mem_ofList]
  exact (h.interfaces.map _).mem_iff

theorem signature? (h : catalogue.Reordered other) (node : Node) :
    catalogue.signature? node = other.signature? node := by
  unfold Catalogue.signature?
  cases node.kind with
  | external typeName => exact h.nodeType? typeName
  | _ => rfl

/-- The same places name the same pin types. -/
theorem places (h : catalogue.Reordered other) : catalogue.places.Perm other.places :=
  ((h.compatibility.flatMap_right _).append (h.nodeTypes.flatMap_right _)).append (h.interfaces.flatMap_right _)

theorem closed_iff (h : catalogue.Reordered other) : catalogue.Closed ↔ other.Closed := by
  unfold Closed
  simp only [h.places.mem_iff, h.pinTypes]

end Catalogue.Reordered

/-! ### Diagnoses -/

namespace PinResolver

variable {spec : Specification} {catalogue other : Catalogue}

theorem outputType?_of_reordered (h : catalogue.Reordered other) (endpoint : Endpoint) (pin : String) :
    (new spec catalogue).outputType? endpoint pin = (new spec other).outputType? endpoint pin := by
  have kinds (kind : NodeKind) :
      (new spec catalogue).nodeOutputType? kind pin = (new spec other).nodeOutputType? kind pin := by
    cases kind with
    | external typeName => simp only [nodeOutputType?, new, h.nodeType?]
    | _ => rfl
  cases endpoint with
  | boundary => rfl
  | node id =>
    simp only [outputType?, kinds]
    rfl

theorem inputType?_of_reordered (h : catalogue.Reordered other) (endpoint : Endpoint) (pin : String) :
    (new spec catalogue).inputType? endpoint pin = (new spec other).inputType? endpoint pin := by
  have kinds (kind : NodeKind) :
      (new spec catalogue).nodeInputType? kind pin = (new spec other).nodeInputType? kind pin := by
    cases kind with
    | external typeName => simp only [nodeInputType?, new, h.nodeType?]
    | _ => rfl
  cases endpoint with
  | boundary => rfl
  | node id =>
    simp only [inputType?, kinds]
    rfl

/-- A connection gets the same verdict, and the same list of what its source may feed. -/
theorem connectionViolations_of_reordered (h : catalogue.Reordered other) (c : Connection) :
    (new spec catalogue).connectionViolations c = (new spec other).connectionViolations c := by
  have ends : (new spec catalogue).containsBoth c = (new spec other).containsBoth c := rfl
  have feeds := h.isCompatible
  have targets := h.compatibleTargets
  unfold connectionViolations
  rw [ends, outputType?_of_reordered h, inputType?_of_reordered h]
  simp only [new, feeds, targets]
  rfl

end PinResolver

namespace Specification

variable {spec : Specification} {catalogue other : Catalogue}

/-- A specification contradicts reordered catalogues in the same ways. -/
theorem violations_of_reordered (h : catalogue.Reordered other) :
    spec.violations catalogue = spec.violations other := by
  have assetTypes : spec.assetTypeViolations catalogue = spec.assetTypeViolations other := by
    rw [assetTypeViolations, assetTypeViolations, h.isAssetType, h.assetTypes]
  have interfaces : spec.interfaceViolations catalogue = spec.interfaceViolations other := by
    simp only [interfaceViolations, h.interface?, h.interfaceNames]
  have vars : spec.variableViolations catalogue = spec.variableViolations other := by
    simp only [variableViolations, h.isPinType]
  have nodes : spec.nodeViolations catalogue = spec.nodeViolations other := by
    simp only [nodeViolations, nodeKindViolations, h.nodeType?]
  have connections : (PinResolver.new spec catalogue).connectionViolations =
      (PinResolver.new spec other).connectionViolations :=
    funext (PinResolver.connectionViolations_of_reordered h)
  have fed : (PinResolver.new spec catalogue).fedPins spec.connections =
      (PinResolver.new spec other).fedPins spec.connections := rfl
  have defaults : spec.defaultViolations catalogue = spec.defaultViolations other := by
    simp only [defaultViolations, h.signature?]
  have required (fed : List (Endpoint × String)) :
      spec.requiredInputViolations catalogue fed = spec.requiredInputViolations other fed := by
    simp only [requiredInputViolations, h.signature?]
  have pins : spec.interfacePinViolations catalogue = spec.interfacePinViolations other := by
    simp only [interfacePinViolations, h.interface?]
  simp only [violations, assetTypes, interfaces, vars, nodes, connections, fed, defaults, required, pins]

theorem validate_of_reordered (h : catalogue.Reordered other) : spec.validate catalogue = spec.validate other := by
  rw [validate, validate, violations_of_reordered h]

end Specification

end AudioGraph
