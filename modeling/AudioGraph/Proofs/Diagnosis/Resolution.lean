import AudioGraph.Diagnosis.Checks
import AudioGraph.Proofs.Names

/-!
# What endpoints give and take

The resolver answers with pin types.  Here the answers are relations: an endpoint is declared, gives values of a type
through a pin, or takes values of a type through a pin, and a pin type feeds another one.

* (index) The resolver treats an endpoint as the first node of its id (`outputType?_node`, `inputType?_node`).
* (answers) Where ids are distinct, it finds a type exactly if the endpoint gives (`outputType?_eq_some_iff`) or takes
  (`inputType?_eq_some_iff`) values of the type.
* (dependence) Its answers depend on no more of a specification than what its names find there (`outputType?_congr`,
  `inputType?_congr`), and so does what it says of a connection (`connectionViolations_congr`) and which pins it takes
  for fed (`fedPins_congr`).  The same holds of whether a node is known (`nodeKindViolations_congr`) and of which
  interfaces are met (`interfacePinViolations_congr`).
-/

namespace AudioGraph

namespace Catalogue

/-- A pin type may feed another one: it is declared, and the other one is itself or is listed for it. -/
def Feeds (catalogue : Catalogue) (source destination : String) : Prop :=
  source ∈ catalogue.pinTypes ∧
    (source = destination ∨ ∃ targets, catalogue.compatibility.get? source = some targets ∧ destination ∈ targets)

theorem isCompatible_iff_feeds {catalogue : Catalogue} {source destination : String} :
    catalogue.isCompatible source destination = true ↔ catalogue.Feeds source destination := by
  have listed : destination ∈ catalogue.listedTargets source ↔
      ∃ targets, catalogue.compatibility.get? source = some targets ∧ destination ∈ targets := by
    unfold listedTargets
    cases catalogue.compatibility.get? source <;> simp
  rw [isCompatible, isPinType, Feeds, ← listed]
  simp

end Catalogue

/-- The kind without the delay of a read. -/
def NodeKind.undelayed : NodeKind → NodeKind
  | delayedRead name => read name
  | kind => kind

theorem NodeKind.undelayed_undelayed (kind : NodeKind) : kind.undelayed.undelayed = kind.undelayed := by
  cases kind <;> rfl

/-- The node without its position and its literal values. -/
def Node.bare (node : Node) : Node := .ofKind node.id node.kind

namespace Specification

/-- The boundary, or the id of a node. -/
def Declares (spec : Specification) : Endpoint → Prop
  | .boundary => True
  | .node id => ∃ node ∈ spec.nodes, node.id = id

/-- Nodes of a kind have a pin of a type from which a connection may start.  One that reads a variable has any such
pin. -/
inductive KindGives (spec : Specification) (catalogue : Catalogue) : NodeKind → String → String → Prop where
  | external {typeName pin : String} {signature : NodeSignature} {output : Pin} :
      catalogue.nodeType? typeName = some signature → IsFirst Pin.name pin signature.outputs output →
        KindGives spec catalogue (.external typeName) pin output.pinType
  | read {name pin : String} {v : Variable} :
      IsFirst Variable.name name spec.vars v → KindGives spec catalogue (.read name) pin v.pinType
  | delayedRead {name pin : String} {v : Variable} :
      IsFirst Variable.name name spec.vars v → KindGives spec catalogue (.delayedRead name) pin v.pinType

/-- Nodes of a kind have a pin of a type at which a connection may end. -/
inductive KindTakes (spec : Specification) (catalogue : Catalogue) : NodeKind → String → String → Prop where
  | external {typeName pin : String} {signature : NodeSignature} {input : InputPin} :
      catalogue.nodeType? typeName = some signature → IsFirst InputPin.name pin signature.inputs input →
        KindTakes spec catalogue (.external typeName) pin input.pinType
  | value {name : String} {v : Variable} :
      IsFirst Variable.name name spec.vars v → KindTakes spec catalogue (.write name) valuePin v.pinType
  | execute {name : String} : KindTakes spec catalogue (.write name) executePin triggerType

/-- A connection may start at a pin of an endpoint, with values of a type.  On the boundary the pins are the graph
inputs. -/
inductive Gives (spec : Specification) (catalogue : Catalogue) : Endpoint → String → String → Prop where
  | boundary {pin : String} {input : GraphInput} :
      IsFirst GraphInput.name pin spec.inputs input → Gives spec catalogue .boundary pin input.pinType
  | node {node : Node} {pin pinType : String} :
      node ∈ spec.nodes → spec.KindGives catalogue node.kind pin pinType →
        Gives spec catalogue (.node node.id) pin pinType

/-- A connection may end at a pin of an endpoint, with values of a type.  On the boundary the pins are the graph
outputs. -/
inductive Takes (spec : Specification) (catalogue : Catalogue) : Endpoint → String → String → Prop where
  | boundary {pin : String} {output : GraphOutput} :
      IsFirst GraphOutput.name pin spec.outputs output → Takes spec catalogue .boundary pin output.pinType
  | node {node : Node} {pin pinType : String} :
      node ∈ spec.nodes → spec.KindTakes catalogue node.kind pin pinType →
        Takes spec catalogue (.node node.id) pin pinType

theorem Gives.declares {spec : Specification} {catalogue : Catalogue} {endpoint : Endpoint} {pin pinType : String}
    (h : spec.Gives catalogue endpoint pin pinType) : spec.Declares endpoint := by
  cases h with
  | boundary _ => trivial
  | node hn _ => exact ⟨_, hn, rfl⟩

theorem Takes.declares {spec : Specification} {catalogue : Catalogue} {endpoint : Endpoint} {pin pinType : String}
    (h : spec.Takes catalogue endpoint pin pinType) : spec.Declares endpoint := by
  cases h with
  | boundary _ => trivial
  | node hn _ => exact ⟨_, hn, rfl⟩

/-- What a name finds on the boundary, among the variables and among the nodes has the same pins in two specifications:
it is of the same type, or of the same kind up to the delay of reads. -/
structure SamePins (spec other : Specification) : Prop where
  inputs : ∀ name, (spec.findInput? name).map GraphInput.pinType = (other.findInput? name).map GraphInput.pinType
  outputs : ∀ name, (spec.findOutput? name).map GraphOutput.pinType = (other.findOutput? name).map GraphOutput.pinType
  vars : ∀ name, (spec.findVariable? name).map Variable.pinType = (other.findVariable? name).map Variable.pinType
  nodes : ∀ id, (spec.findNode? id).map (·.kind.undelayed) = (other.findNode? id).map (·.kind.undelayed)

namespace SamePins

variable {spec other : Specification}

theorem isSome_findInput? (same : spec.SamePins other) (name : String) :
    (spec.findInput? name).isSome = (other.findInput? name).isSome := by
  simpa only [Option.isSome_map] using congrArg Option.isSome (same.inputs name)

theorem isSome_findOutput? (same : spec.SamePins other) (name : String) :
    (spec.findOutput? name).isSome = (other.findOutput? name).isSome := by
  simpa only [Option.isSome_map] using congrArg Option.isSome (same.outputs name)

theorem isSome_findVariable? (same : spec.SamePins other) (name : String) :
    (spec.findVariable? name).isSome = (other.findVariable? name).isSome := by
  simpa only [Option.isSome_map] using congrArg Option.isSome (same.vars name)

end SamePins

/-- Of which kind a node is found depends on no more of the nodes than their ids and kinds. -/
theorem map_kind_findNode? (spec : Specification) (id : String) :
    (spec.findNode? id).map (·.kind.undelayed) =
      ((spec.nodes.map Node.bare).find? fun node => node.id == id).map (·.kind.undelayed) := by
  rw [find?_map_of_named Node.id Node.bare (fun _ => rfl), Option.map_map]
  rfl

end Specification

/-- A node is of a type of the catalogue, which has a signature. -/
def Node.HasSignature (node : Node) (catalogue : Catalogue) (signature : NodeSignature) : Prop :=
  ∃ typeName, node.kind = .external typeName ∧ catalogue.nodeType? typeName = some signature

theorem Catalogue.signature?_eq_some_iff {catalogue : Catalogue} {node : Node} {signature : NodeSignature} :
    catalogue.signature? node = some signature ↔ node.HasSignature catalogue signature := by
  unfold signature? Node.HasSignature
  cases node.kind <;> simp

namespace PinResolver

variable {spec : Specification} {catalogue : Catalogue}

/-! ### The index -/

theorem contains_node (id : String) : (new spec catalogue).contains (.node id) = (spec.findNode? id).isSome := by
  rw [contains, new, Std.HashMap.contains_eq_isSome_getElem?, getElem?_indexNodes, Specification.findNode?]

theorem contains_new_iff {endpoint : Endpoint} :
    (new spec catalogue).contains endpoint = true ↔ spec.Declares endpoint := by
  cases endpoint with
  | boundary => simp [contains, Specification.Declares]
  | node id =>
    rw [contains_node, Specification.findNode?, isSome_find?_iff]
    rfl

theorem outputType?_node (id pin : String) :
    (new spec catalogue).outputType? (.node id) pin =
      (spec.findNode? id).bind fun node => (new spec catalogue).nodeOutputType? node.kind pin := by
  rw [outputType?]
  exact congrArg (Option.bind · _) (getElem?_indexNodes spec.nodes id)

theorem inputType?_node (id pin : String) :
    (new spec catalogue).inputType? (.node id) pin =
      (spec.findNode? id).bind fun node => (new spec catalogue).nodeInputType? node.kind pin := by
  rw [inputType?]
  exact congrArg (Option.bind · _) (getElem?_indexNodes spec.nodes id)

/-! ### Kinds of nodes -/

theorem nodeOutputType?_eq_some_iff {kind : NodeKind} {pin pinType : String} :
    (new spec catalogue).nodeOutputType? kind pin = some pinType ↔ spec.KindGives catalogue kind pin pinType := by
  cases kind with
  | external typeName =>
    constructor
    · intro h
      obtain ⟨signature, hs, h⟩ := Option.bind_eq_some_iff.1 h
      obtain ⟨output, ho, h⟩ := Option.bind_eq_some_iff.1 h
      obtain rfl := Option.some.inj h
      exact .external hs (find?_eq_some_iff_isFirst.1 ho)
    · rintro ⟨hs, ho⟩
      exact Option.bind_eq_some_iff.2 ⟨_, hs, Option.bind_eq_some_iff.2 ⟨_, find?_eq_some_iff_isFirst.2 ho, rfl⟩⟩
  | read name =>
    constructor
    · intro h
      obtain ⟨v, hv, rfl⟩ := map_find?_eq_some_iff.1 h
      exact .read hv
    · rintro ⟨⟩
      next hv => exact map_find?_eq_some_iff.2 ⟨_, hv, rfl⟩
  | delayedRead name =>
    constructor
    · intro h
      obtain ⟨v, hv, rfl⟩ := map_find?_eq_some_iff.1 h
      exact .delayedRead hv
    · rintro ⟨⟩
      next hv => exact map_find?_eq_some_iff.2 ⟨_, hv, rfl⟩
  | write name => exact ⟨nofun, nofun⟩

private theorem executePin_ne_valuePin : executePin ≠ valuePin := by
  decide

theorem nodeInputType?_eq_some_iff {kind : NodeKind} {pin pinType : String} :
    (new spec catalogue).nodeInputType? kind pin = some pinType ↔ spec.KindTakes catalogue kind pin pinType := by
  cases kind with
  | external typeName =>
    constructor
    · intro h
      obtain ⟨signature, hs, h⟩ := Option.bind_eq_some_iff.1 h
      obtain ⟨input, hi, h⟩ := Option.bind_eq_some_iff.1 h
      obtain rfl := Option.some.inj h
      exact .external hs (find?_eq_some_iff_isFirst.1 hi)
    · rintro ⟨hs, hi⟩
      exact Option.bind_eq_some_iff.2 ⟨_, hs, Option.bind_eq_some_iff.2 ⟨_, find?_eq_some_iff_isFirst.2 hi, rfl⟩⟩
  | read name => exact ⟨nofun, nofun⟩
  | delayedRead name => exact ⟨nofun, nofun⟩
  | write name =>
    -- such a node takes a value at one pin and a trigger at another, and the two pins differ in name
    rw [nodeInputType?]
    constructor
    · intro h
      split at h
      · next hp =>
        obtain ⟨v, hv, rfl⟩ := map_find?_eq_some_iff.1 h
        exact hp ▸ .value hv
      · split at h
        · next hp =>
          obtain rfl := Option.some.inj h
          exact hp ▸ .execute
        · cases h
    · rintro ⟨⟩
      · next hv =>
        rw [if_pos rfl]
        exact map_find?_eq_some_iff.2 ⟨_, hv, rfl⟩
      · rw [if_neg executePin_ne_valuePin, if_pos rfl]

/-! ### Answers -/

private theorem findNode?_bind_eq_some_iff (distinct : (spec.nodes.map Node.id).Nodup) {id pinType : String}
    {f : Node → Option String} :
    (spec.findNode? id).bind f = some pinType ↔ ∃ node ∈ spec.nodes, node.id = id ∧ f node = some pinType := by
  rw [Option.bind_eq_some_iff]
  refine exists_congr fun node => ?_
  rw [Specification.findNode?, find?_eq_some_iff_isFirst, isFirst_iff_of_nodup distinct, and_assoc]

theorem outputType?_eq_some_iff (distinct : (spec.nodes.map Node.id).Nodup) {endpoint : Endpoint}
    {pin pinType : String} :
    (new spec catalogue).outputType? endpoint pin = some pinType ↔ spec.Gives catalogue endpoint pin pinType := by
  cases endpoint with
  | boundary =>
    rw [outputType?, Specification.findInput?, map_find?_eq_some_iff]
    constructor
    · rintro ⟨input, hi, rfl⟩
      exact .boundary hi
    · rintro ⟨hi⟩
      exact ⟨_, hi, rfl⟩
  | node id =>
    rw [outputType?_node, findNode?_bind_eq_some_iff distinct]
    constructor
    · rintro ⟨node, hm, rfl, h⟩
      exact .node hm (nodeOutputType?_eq_some_iff.1 h)
    · rintro ⟨⟩
      next node hm h => exact ⟨node, hm, rfl, nodeOutputType?_eq_some_iff.2 h⟩

theorem inputType?_eq_some_iff (distinct : (spec.nodes.map Node.id).Nodup) {endpoint : Endpoint}
    {pin pinType : String} :
    (new spec catalogue).inputType? endpoint pin = some pinType ↔ spec.Takes catalogue endpoint pin pinType := by
  cases endpoint with
  | boundary =>
    rw [inputType?, Specification.findOutput?, map_find?_eq_some_iff]
    constructor
    · rintro ⟨output, ho, rfl⟩
      exact .boundary ho
    · rintro ⟨ho⟩
      exact ⟨_, ho, rfl⟩
  | node id =>
    rw [inputType?_node, findNode?_bind_eq_some_iff distinct]
    constructor
    · rintro ⟨node, hm, rfl, h⟩
      exact .node hm (nodeInputType?_eq_some_iff.1 h)
    · rintro ⟨⟩
      next node hm h => exact ⟨node, hm, rfl, nodeInputType?_eq_some_iff.2 h⟩

/-! ### What the answers depend on -/

/-- The delay of a read does not show at its pins. -/
theorem nodeOutputType?_undelayed (pins : PinResolver) (kind : NodeKind) (pin : String) :
    pins.nodeOutputType? kind.undelayed pin = pins.nodeOutputType? kind pin := by
  cases kind <;> rfl

theorem nodeInputType?_undelayed (pins : PinResolver) (kind : NodeKind) (pin : String) :
    pins.nodeInputType? kind.undelayed pin = pins.nodeInputType? kind pin := by
  cases kind <;> rfl

variable {other : Specification}

theorem contains_congr (same : spec.SamePins other) (endpoint : Endpoint) :
    (new spec catalogue).contains endpoint = (new other catalogue).contains endpoint := by
  cases endpoint with
  | boundary => rfl
  | node id => simpa [contains_node] using congrArg Option.isSome (same.nodes id)

private theorem nodeOutputType?_congr (same : spec.SamePins other) (kind : NodeKind) (pin : String) :
    (new spec catalogue).nodeOutputType? kind pin = (new other catalogue).nodeOutputType? kind pin := by
  cases kind with
  | external typeName => rfl
  | read name => exact same.vars name
  | delayedRead name => exact same.vars name
  | write name => rfl

private theorem nodeInputType?_congr (same : spec.SamePins other) (kind : NodeKind) (pin : String) :
    (new spec catalogue).nodeInputType? kind pin = (new other catalogue).nodeInputType? kind pin := by
  cases kind with
  | external typeName => rfl
  | read name => rfl
  | delayedRead name => rfl
  | write name => exact congrArg (fun t => if pin = valuePin then t else _) (same.vars name)

theorem outputType?_congr (same : spec.SamePins other) (endpoint : Endpoint) (pin : String) :
    (new spec catalogue).outputType? endpoint pin = (new other catalogue).outputType? endpoint pin := by
  cases endpoint with
  | boundary => exact same.inputs pin
  | node id =>
    have kinds := congrArg (Option.bind · ((new spec catalogue).nodeOutputType? · pin)) (same.nodes id)
    simp only [Option.bind_map, Function.comp_def, nodeOutputType?_undelayed] at kinds
    rw [outputType?_node, outputType?_node, kinds]
    simp only [nodeOutputType?_congr same]

theorem inputType?_congr (same : spec.SamePins other) (endpoint : Endpoint) (pin : String) :
    (new spec catalogue).inputType? endpoint pin = (new other catalogue).inputType? endpoint pin := by
  cases endpoint with
  | boundary => exact same.outputs pin
  | node id =>
    have kinds := congrArg (Option.bind · ((new spec catalogue).nodeInputType? · pin)) (same.nodes id)
    simp only [Option.bind_map, Function.comp_def, nodeInputType?_undelayed] at kinds
    rw [inputType?_node, inputType?_node, kinds]
    simp only [nodeInputType?_congr same]

theorem containsBoth_congr (same : spec.SamePins other) (c : Connection) :
    (new spec catalogue).containsBoth c = (new other catalogue).containsBoth c := by
  rw [containsBoth, containsBoth, contains_congr same, contains_congr same]

/-- Where the pins are the same, the same connections feed them. -/
theorem fedPins_congr (same : spec.SamePins other) (connections : List Connection) :
    (new spec catalogue).fedPins connections = (new other catalogue).fedPins connections := by
  rw [fedPins, fedPins, funext (containsBoth_congr same)]

/-- Where the pins are the same, a connection has the same violations. -/
theorem connectionViolations_congr (same : spec.SamePins other) (c : Connection) :
    (new spec catalogue).connectionViolations c = (new other catalogue).connectionViolations c := by
  rw [connectionViolations, connectionViolations, containsBoth_congr same, contains_congr same, contains_congr same,
    outputType?_congr same, inputType?_congr same]
  rfl

end PinResolver

namespace Specification

variable {spec other : Specification} {catalogue : Catalogue}

/-- Where the pins are the same, a node is the same known or unknown thing. -/
theorem nodeKindViolations_congr (same : spec.SamePins other) (node : Node) :
    spec.nodeKindViolations catalogue node = other.nodeKindViolations catalogue node := by
  unfold nodeKindViolations
  simp only [same.isSome_findVariable?]

/-- Where the pins are the same, the same interfaces are met. -/
theorem interfacePinViolations_congr (same : spec.SamePins other) (interfaces : spec.interfaces = other.interfaces) :
    spec.interfacePinViolations catalogue = other.interfacePinViolations catalogue := by
  simp only [interfacePinViolations, same.isSome_findInput?, same.isSome_findOutput?, interfaces]

end Specification

end AudioGraph
