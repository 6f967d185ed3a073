import AudioGraph.Proofs.Diagnosis.Resolution

/-!
# Resolving pins without an index

The resolver looks nodes up in an index that was built before.  Here the same questions are answered by going through
the lists of a specification from their start, and taking the first declaration of a name.

* (scans) Going through a list finds what a search finds (`firstNamed?_eq_find?`).
* (answers) The resolver answers as the scans do, whatever is declared twice (`contains_eq_scan`, `outputType?_eq_scan`,
  `inputType?_eq_scan`).
* (directions) So every kind of endpoint resolves in its own directions only, and a node of a type of the catalogue by
  its signature only, whatever its type and its id are called (`resolver_eq_scan`).
-/

namespace AudioGraph

/-! ### Scans -/

section
universe u
variable {α : Type u}

/-- The first element of a name, found by going through a list. -/
def firstNamed? (name : α → String) (key : String) : List α → Option α
  | [] => none
  | x :: rest => if name x = key then some x else firstNamed? name key rest

theorem firstNamed?_eq_find? (name : α → String) (key : String) (xs : List α) :
    firstNamed? name key xs = xs.find? fun x => name x == key := by
  induction xs with
  | nil => rfl
  | cons x rest ih =>
    rw [firstNamed?, List.find?_cons, ih]
    by_cases h : name x = key
    · simp [h]
    · have hb : (name x == key) = false := by simpa using h
      simp [h, hb]

theorem firstNamed?_eq_some_iff {name : α → String} {key : String} {xs : List α} {x : α} :
    firstNamed? name key xs = some x ↔ IsFirst name key xs x := by
  rw [firstNamed?_eq_find?, find?_eq_some_iff_isFirst]

theorem firstNamed?_eq_none_iff {name : α → String} {key : String} {xs : List α} :
    firstNamed? name key xs = none ↔ ∀ x ∈ xs, name x ≠ key := by
  rw [firstNamed?_eq_find?, List.find?_eq_none]
  simp

end

namespace Specification

/-- Whether an endpoint is the boundary, or some node has its id. -/
def scanContains (spec : Specification) : Endpoint → Bool
  | .boundary => true
  | .node id => (firstNamed? Node.id id spec.nodes).isSome

/-- The type of a pin of a node from which a connection may start. -/
def scanKindOutput? (spec : Specification) (catalogue : Catalogue) : NodeKind → String → Option String
  | .external typeName, pin =>
    match catalogue.nodeType? typeName with
    | none => none
    | some signature => (firstNamed? Pin.name pin signature.outputs).map Pin.pinType
  | .read name, _ | .delayedRead name, _ => (firstNamed? Variable.name name spec.vars).map Variable.pinType
  | .write _, _ => none

/-- The type of a pin of a node at which a connection may end. -/
def scanKindInput? (spec : Specification) (catalogue : Catalogue) : NodeKind → String → Option String
  | .external typeName, pin =>
    match catalogue.nodeType? typeName with
    | none => none
    | some signature => (firstNamed? InputPin.name pin signature.inputs).map InputPin.pinType
  | .read _, _ | .delayedRead _, _ => none
  | .write name, pin =>
    if pin = valuePin then (firstNamed? Variable.name name spec.vars).map Variable.pinType
    else if pin = executePin then some triggerType
    else none

/-- The type of a pin from which a connection may start: on the boundary that of an input, and else what the first node
of an id has. -/
def scanOutputType? (spec : Specification) (catalogue : Catalogue) : Endpoint → String → Option String
  | .boundary, pin => (firstNamed? GraphInput.name pin spec.inputs).map GraphInput.pinType
  | .node id, pin =>
    match firstNamed? Node.id id spec.nodes with
    | none => none
    | some node => spec.scanKindOutput? catalogue node.kind pin

/-- The type of a pin at which a connection may end: on the boundary that of an output, and else what the first node of
an id has. -/
def scanInputType? (spec : Specification) (catalogue : Catalogue) : Endpoint → String → Option String
  | .boundary, pin => (firstNamed? GraphOutput.name pin spec.outputs).map GraphOutput.pinType
  | .node id, pin =>
    match firstNamed? Node.id id spec.nodes with
    | none => none
    | some node => spec.scanKindInput? catalogue node.kind pin

end Specification

/-! ### Answers -/

namespace PinResolver

variable {spec : Specification} {catalogue : Catalogue}

theorem contains_eq_scan (endpoint : Endpoint) :
    (new spec catalogue).contains endpoint = spec.scanContains endpoint := by
  cases endpoint with
  | boundary => rfl
  | node id => rw [contains_node, Specification.scanContains, firstNamed?_eq_find?, Specification.findNode?]

private theorem variableType?_eq_scan (name : String) :
    (new spec catalogue).variableType? name = (firstNamed? Variable.name name spec.vars).map Variable.pinType := by
  rw [firstNamed?_eq_find?]
  rfl

private theorem nodeOutputType?_eq_scan (kind : NodeKind) (pin : String) :
    (new spec catalogue).nodeOutputType? kind pin = spec.scanKindOutput? catalogue kind pin := by
  cases kind with
  | external typeName =>
    have answer : (new spec catalogue).nodeOutputType? (.external typeName) pin =
      (catalogue.nodeType? typeName).bind fun signature =>
        (signature.output? pin).bind fun output => some output.pinType := rfl
    rw [answer, Specification.scanKindOutput?]
    cases catalogue.nodeType? typeName with
    | none => rfl
    | some signature =>
      dsimp only
      rw [Option.bind_some, firstNamed?_eq_find?, Option.map_eq_bind]
      rfl
  | read name => exact variableType?_eq_scan name
  | delayedRead name => exact variableType?_eq_scan name
  | write name => rfl

private theorem nodeInputType?_eq_scan (kind : NodeKind) (pin : String) :
    (new spec catalogue).nodeInputType? kind pin = spec.scanKindInput? catalogue kind pin := by
  cases kind with
  | external typeName =>
    have answer : (new spec catalogue).nodeInputType? (.external typeName) pin =
      (catalogue.nodeType? typeName).bind fun signature =>
        (signature.input? pin).bind fun input => some input.pinType := rfl
    rw [answer, Specification.scanKindInput?]
    cases catalogue.nodeType? typeName with
    | none => rfl
    | some signature =>
      dsimp only
      rw [Option.bind_some, firstNamed?_eq_find?, Option.map_eq_bind]
      rfl
  | read name => rfl
  | delayedRead name => rfl
  | write name => rw [nodeInputType?, Specification.scanKindInput?, variableType?_eq_scan]

theorem outputType?_eq_scan (endpoint : Endpoint) (pin : String) :
    (new spec catalogue).outputType? endpoint pin = spec.scanOutputType? catalogue endpoint pin := by
  cases endpoint with
  | boundary =>
    rw [Specification.scanOutputType?, firstNamed?_eq_find?]
    rfl
  | node id =>
    rw [outputType?_node, Specification.scanOutputType?, firstNamed?_eq_find?, Specification.findNode?]
    cases spec.nodes.find? fun node => node.id == id with
    | none => rfl
    | some node => exact nodeOutputType?_eq_scan node.kind pin

theorem inputType?_eq_scan (endpoint : Endpoint) (pin : String) :
    (new spec catalogue).inputType? endpoint pin = spec.scanInputType? catalogue endpoint pin := by
  cases endpoint with
  | boundary =>
    rw [Specification.scanInputType?, firstNamed?_eq_find?]
    rfl
  | node id =>
    rw [inputType?_node, Specification.scanInputType?, firstNamed?_eq_find?, Specification.findNode?]
    cases spec.nodes.find? fun node => node.id == id with
    | none => rfl
    | some node => exact nodeInputType?_eq_scan node.kind pin

end PinResolver

/-! ### Directions -/

namespace Specification

variable {spec : Specification} {catalogue : Catalogue} {id : String} {node : Node}

/-- At a node that is the first one of its id, the pins are those of its kind. -/
theorem scan_of_isFirst (first : IsFirst Node.id id spec.nodes node) (catalogue : Catalogue) (pin : String) :
    spec.scanOutputType? catalogue (.node id) pin = spec.scanKindOutput? catalogue node.kind pin ∧
    spec.scanInputType? catalogue (.node id) pin = spec.scanKindInput? catalogue node.kind pin := by
  have found := firstNamed?_eq_some_iff.2 first
  rw [scanOutputType?, scanInputType?, found]
  exact ⟨rfl, rfl⟩

/-- At an endpoint that is not declared there are no pins. -/
theorem scan_of_not_contains {endpoint : Endpoint} (unknown : spec.scanContains endpoint = false) (pin : String) :
    spec.scanOutputType? catalogue endpoint pin = none ∧ spec.scanInputType? catalogue endpoint pin = none := by
  cases endpoint with
  | boundary => cases unknown
  | node id =>
    have missed : firstNamed? Node.id id spec.nodes = none := by
      rwa [scanContains, Option.isSome_eq_false_iff, Option.isNone_iff_eq_none] at unknown
    rw [scanOutputType?, scanInputType?, missed]
    exact ⟨rfl, rfl⟩

/-- On the boundary, an input is a source only, unless an output has its name. -/
theorem scan_of_isFirst_input {input : GraphInput} {pin : String}
    (first : IsFirst GraphInput.name pin spec.inputs input) (other : ∀ output ∈ spec.outputs, output.name ≠ pin) :
    spec.scanOutputType? catalogue .boundary pin = some input.pinType ∧
    spec.scanInputType? catalogue .boundary pin = none := by
  rw [scanOutputType?, scanInputType?, firstNamed?_eq_some_iff.2 first, firstNamed?_eq_none_iff.2 other]
  exact ⟨rfl, rfl⟩

/-- On the boundary, an output is a destination only, unless an input has its name. -/
theorem scan_of_isFirst_output {output : GraphOutput} {pin : String}
    (first : IsFirst GraphOutput.name pin spec.outputs output) (other : ∀ input ∈ spec.inputs, input.name ≠ pin) :
    spec.scanInputType? catalogue .boundary pin = some output.pinType ∧
    spec.scanOutputType? catalogue .boundary pin = none := by
  rw [scanOutputType?, scanInputType?, firstNamed?_eq_some_iff.2 first, firstNamed?_eq_none_iff.2 other]
  exact ⟨rfl, rfl⟩

end Specification

namespace PinResolver

/-- The resolver answers as if it went through the lists of the specification.  A boundary pin resolves in its own
direction only, a node that reads a variable as a source only, one that writes a variable as a destination only, and
what is not declared in no direction.  A node of a type of the catalogue has the pins of its signature, also if its type
has a reserved name or its id is that of the boundary. -/
theorem resolver_eq_scan (spec : Specification) (catalogue : Catalogue) :
    (∀ endpoint, (new spec catalogue).contains endpoint = spec.scanContains endpoint) ∧
    (∀ endpoint pin, (new spec catalogue).outputType? endpoint pin = spec.scanOutputType? catalogue endpoint pin) ∧
    (∀ endpoint pin, (new spec catalogue).inputType? endpoint pin = spec.scanInputType? catalogue endpoint pin) ∧
    (∀ pin input, IsFirst GraphInput.name pin spec.inputs input → (∀ output ∈ spec.outputs, output.name ≠ pin) →
      (new spec catalogue).outputType? .boundary pin = some input.pinType ∧
      (new spec catalogue).inputType? .boundary pin = none) ∧
    (∀ pin output, IsFirst GraphOutput.name pin spec.outputs output → (∀ input ∈ spec.inputs, input.name ≠ pin) →
      (new spec catalogue).inputType? .boundary pin = some output.pinType ∧
      (new spec catalogue).outputType? .boundary pin = none) ∧
    (∀ id node name, IsFirst Node.id id spec.nodes node → node.kind = .read name ∨ node.kind = .delayedRead name →
      ∀ pin, (new spec catalogue).inputType? (.node id) pin = none) ∧
    (∀ id node name, IsFirst Node.id id spec.nodes node → node.kind = .write name →
      ∀ pin, (new spec catalogue).outputType? (.node id) pin = none) ∧
    (∀ endpoint, (new spec catalogue).contains endpoint = false →
      ∀ pin, (new spec catalogue).outputType? endpoint pin = none ∧ (new spec catalogue).inputType? endpoint pin = none) ∧
    (∀ id node typeName, IsFirst Node.id id spec.nodes node → node.kind = .external typeName → ∀ pin,
      (new spec catalogue).outputType? (.node id) pin =
        ((catalogue.nodeType? typeName).bind fun signature => firstNamed? Pin.name pin signature.outputs).map
          Pin.pinType ∧
      (new spec catalogue).inputType? (.node id) pin =
        ((catalogue.nodeType? typeName).bind fun signature => firstNamed? InputPin.name pin signature.inputs).map
          InputPin.pinType) := by
  refine ⟨contains_eq_scan, outputType?_eq_scan, inputType?_eq_scan, ?_⟩
  simp only [contains_eq_scan, outputType?_eq_scan, inputType?_eq_scan]
  refine ⟨fun _ _ => Specification.scan_of_isFirst_input, fun _ _ => Specification.scan_of_isFirst_output, ?_, ?_,
    fun _ => Specification.scan_of_not_contains, ?_⟩
  · intro id node name first read pin
    rw [(Specification.scan_of_isFirst first catalogue pin).2]
    rcases read with read | read <;> rw [read] <;> rfl
  · intro id node name first write pin
    rw [(Specification.scan_of_isFirst first catalogue pin).1, write]
    rfl
  · intro id node typeName first external pin
    obtain ⟨output, input⟩ := Specification.scan_of_isFirst first catalogue pin
    rw [output, input, external, Specification.scanKindOutput?, Specification.scanKindInput?]
    cases catalogue.nodeType? typeName <;> exact ⟨rfl, rfl⟩

end PinResolver

namespace Specification

/-- A catalogue with a node type of a reserved name. -/
def disguises : Catalogue where
  assetTypes := .ofList ["Patch"]
  pinTypes := .ofList ["Audio", "Float", "Trigger"]
  compatibility := .empty
  interfaces := .empty
  nodeTypes := .ofList [(NodeKind.readType, ⟨[], [⟨"Value", "Audio"⟩, ⟨"Value", "Float"⟩]⟩)]

/-- Names that are declared twice, and a node of a reserved type with the id of the boundary. -/
def masquerade : Specification :=
  { empty "Masquerade" "Patch" with
    vars := [⟨"Gain", "Float", none⟩, ⟨"Gain", "Trigger", none⟩]
    inputs := [⟨"Level", "Float", none⟩, ⟨"Level", "Trigger", none⟩]
    outputs := [⟨"Out", "Audio"⟩, ⟨"Out", "Float"⟩]
    nodes := [.ofKind "get" (.delayedRead "Gain"), .ofKind "get" (.write "Gain"), .ofKind "set" (.write "Gain"),
      .ofKind Endpoint.boundaryName (.external NodeKind.readType)] }

end Specification

namespace PinResolver

open Specification (disguises masquerade)

theorem resolver_eq_scan_masquerade :
    let pins := new masquerade disguises
    (pins.outputType? .boundary "Level" = some "Float" ∧ pins.inputType? .boundary "Level" = none) ∧
    (pins.inputType? .boundary "Out" = some "Audio" ∧ pins.outputType? .boundary "Out" = none) ∧
    pins.inputType? (.node "get") valuePin = none ∧ pins.outputType? (.node "set") valuePin = none ∧
    pins.contains (.node "mask") = false ∧ pins.outputType? (.node "mask") "Value" = none ∧
    pins.outputType? (.node Endpoint.boundaryName) "Value" = some "Audio" := by
  obtain ⟨contains, -, -, inputs, outputs, reads, writes, unknown, externals⟩ := resolver_eq_scan masquerade disguises
  have absent : (new masquerade disguises).contains (.node "mask") = false := (contains _).trans rfl
  refine ⟨inputs "Level" _ (firstNamed?_eq_some_iff.1 rfl) (by decide),
    outputs "Out" _ (firstNamed?_eq_some_iff.1 rfl) (by decide),
    reads "get" _ "Gain" (firstNamed?_eq_some_iff.1 rfl) (.inr rfl) _,
    writes "set" _ "Gain" (firstNamed?_eq_some_iff.1 rfl) rfl _, absent, (unknown _ absent _).1, ?_⟩
  rw [(externals _ _ _ (firstNamed?_eq_some_iff.1 rfl) rfl _).1]
  decide

end PinResolver

end AudioGraph
