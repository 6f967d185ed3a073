import AudioGraph.Specification.Parse
import AudioGraph.Proofs.Shape.Reading

/-!
# The normal form of specifications

Writing a specification and reading it again loses what documents cannot tell: a node that has the name of the boundary
is taken for the boundary, a node type with the name of an access to a variable for the access, and an initial value
null for none.  `Specification.normal` makes these changes, and no others.

* (round trip) Each part is read as its normal form from what is written of it (`Node.reads_toJson` and its like).
* (image) What is read from any document is in normal form and has finite positions (`Specification.normal_of_ofJson`,
  `Specification.finitePositions_of_ofJson`).
-/

namespace AudioGraph

/-! ### Normal forms -/

namespace Endpoint

/-- The endpoint as documents tell it: a node of the name of the boundary is the boundary. -/
def normal : Endpoint → Endpoint
  | boundary => boundary
  | node id => if id = boundaryName then boundary else node id

theorem ofName_name (endpoint : Endpoint) : ofName endpoint.name = endpoint.normal := by
  cases endpoint with
  | boundary => exact if_pos rfl
  | node id => rfl

theorem normal_ofName (name : String) : (ofName name).normal = ofName name := by
  unfold ofName
  split
  · rfl
  · next h => exact if_neg h

theorem normal_normal (endpoint : Endpoint) : endpoint.normal.normal = endpoint.normal := by
  rw [← ofName_name endpoint, normal_ofName]

end Endpoint

namespace NodeKind

/-- The kind as documents tell it: a type with the name of an access is the access, to a variable without a name. -/
def normal : NodeKind → NodeKind
  | external typeName =>
    if typeName = readType then read ""
    else if typeName = delayedReadType then delayedRead ""
    else if typeName = writeType then write ""
    else external typeName
  | kind => kind

theorem ofNames_typeName (kind : NodeKind) : ofNames kind.typeName (kind.accessed?.getD "") = kind.normal := by
  have hd : delayedReadType ≠ readType := by decide
  have hw : writeType ≠ readType := by decide
  have hwd : writeType ≠ delayedReadType := by decide
  cases kind with
  | external typeName => rfl
  | read name => exact if_pos rfl
  | delayedRead name => exact (if_neg hd).trans (if_pos rfl)
  | write name => exact (if_neg hw).trans ((if_neg hwd).trans (if_pos rfl))

theorem normal_ofNames (typeName name : String) : (ofNames typeName name).normal = ofNames typeName name := by
  unfold ofNames
  split
  · rfl
  · next hr =>
    split
    · rfl
    · next hd =>
      split
      · rfl
      · next hw => exact (if_neg hr).trans ((if_neg hd).trans (if_neg hw))

theorem normal_normal (kind : NodeKind) : kind.normal.normal = kind.normal := by
  rw [← ofNames_typeName kind, normal_ofNames]

end NodeKind

/-- An initial value as documents tell it: null is no value. -/
def Json.normalValue : Option Json → Option Json
  | some .null => none
  | value => value

theorem Json.normalValue_of_ne_null {value : Option Json} (h : value ≠ some .null) : normalValue value = value := by
  unfold normalValue
  split
  · exact absurd rfl h
  · rfl

theorem Json.normalValue_normalValue (value : Option Json) : normalValue (normalValue value) = normalValue value := by
  refine normalValue_of_ne_null ?_
  unfold normalValue
  split
  · exact nofun
  · next h => exact h

/-- The variable as documents tell it. -/
def Variable.normal (v : Variable) : Variable := { v with default := Json.normalValue v.default }

/-- The input as documents tell it. -/
def GraphInput.normal (pin : GraphInput) : GraphInput := { pin with default := Json.normalValue pin.default }

/-- The node as documents tell it. -/
def Node.normal (node : Node) : Node := { node with kind := node.kind.normal }

/-- The connection as documents tell it. -/
def Connection.normal (c : Connection) : Connection :=
  { c with source := c.source.normal, destination := c.destination.normal }

/-- The specification as documents tell it. -/
def Specification.normal (spec : Specification) : Specification :=
  { spec with
    vars := spec.vars.map Variable.normal
    inputs := spec.inputs.map GraphInput.normal
    nodes := spec.nodes.map Node.normal
    connections := spec.connections.map Connection.normal }

/-- Both coordinates are finite. -/
def Position.Finite (p : Position) : Prop := p.x.isFinite = true ∧ p.y.isFinite = true

/-- All nodes that have a position have a finite one. -/
def Specification.FinitePositions (spec : Specification) : Prop :=
  ∀ node ∈ spec.nodes, ∀ p, node.position = some p → p.Finite

/-! ### Round trips -/

theorem Json.ofFloat_of_isFinite {x : Float} (h : x.isFinite = true) : ofFloat x = .num (.float ⟨x, h⟩) := by
  rw [ofFloat, FiniteFloat.ofFloat?, dif_pos h]

/-- A name, a pin type and perhaps an initial value are read as they are written, but null as no value. -/
theorem Shape.decode_declaration (title name pinType : String) (default : Option Json) :
    (record title <| .cons "name" .required .text <| .cons "type" .required .text <|
        .cons "default" (.optional .null) (.nullable .literal) .nil).decode
      (.obj <| [("name", .str name), ("type", .str pinType)] ++ Json.optionalMember "default" default) =
      .ok (name, pinType, Json.normalValue default, ()) := by
  cases default with
  | none => rfl
  | some j => cases j <;> rfl

theorem Variable.reads_toJson (v : Variable) : shape.Reads ofRow v.toJson v.normal :=
  ⟨_, Shape.decode_declaration "struct Variable" v.name v.pinType v.default, rfl⟩

theorem GraphInput.reads_toJson (pin : GraphInput) : shape.Reads ofRow pin.toJson pin.normal :=
  ⟨_, Shape.decode_declaration "struct GraphInput" pin.name pin.pinType pin.default, rfl⟩

theorem GraphOutput.reads_toJson (pin : GraphOutput) : shape.Reads ofRow pin.toJson pin :=
  ⟨(pin.name, pin.pinType, ()), rfl, rfl⟩

theorem Position.reads_toJson {p : Position} (finite : p.Finite) : shape.Reads ofRow p.toJson p := by
  refine ⟨(⟨p.x, finite.1⟩, ⟨p.y, finite.2⟩, ()), ?_, rfl⟩
  rw [toJson, Json.ofFloat_of_isFinite finite.1, Json.ofFloat_of_isFinite finite.2]
  rfl

/-- Where nothing is written for no position, none is read. -/
theorem Position.reads_optional {position : Option Position} (finite : ∀ p, position = some p → p.Finite) :
    (Shape.nullable shape).Reads (Option.map ofRow) ((position.map toJson).getD .null) position := by
  cases position with
  | none => exact ⟨none, rfl, rfl⟩
  | some p =>
    obtain ⟨row, read, made⟩ := reads_toJson (finite p rfl)
    refine ⟨some row, ?_, congrArg some made⟩
    exact map_eq_ok_iff.2 ⟨row, read, rfl⟩

theorem Connection.reads_toJson (c : Connection) : shape.Reads ofRow c.toJson c.normal := by
  refine ⟨(c.source.name, c.sourcePin, c.destination.name, c.destinationPin, ()), rfl, ?_⟩
  show Connection.mk (.ofName c.source.name) c.sourcePin (.ofName c.destination.name) c.destinationPin = c.normal
  rw [Endpoint.ofName_name, Endpoint.ofName_name]
  rfl

/-- The members of a node, each written only if there is something to write. -/
private theorem Node.toJson_eq (node : Node) :
    node.toJson = .obj ([("id", .str node.id), ("node_type", .str node.kind.typeName)] ++
      Json.optionalMember "variable_name"
        (if node.kind.accessed?.getD "" = "" then none else some (.str (node.kind.accessed?.getD ""))) ++
      Json.optionalMember "position" (node.position.map Position.toJson) ++
      Json.optionalMember "defaults" (if node.defaults.isEmpty then none else some (.obj node.defaults.entries))) := by
  by_cases named : node.kind.accessed?.getD "" = "" <;> by_cases bare : node.defaults.isEmpty <;>
    simp [toJson, Json.optionalMember, named, bare]

/-- Where nothing is written for an empty table, an empty table is read. -/
private theorem Node.decode_defaults (defaults : Table Json) :
    (Shape.table .literal).decode ((if defaults.isEmpty then none else some (.obj defaults.entries)).getD (.obj [])) =
      .ok defaults := by
  have read := Shape.decode_table_literal defaults
  split
  · next h => rwa [List.isEmpty_iff.1 h] at read
  · exact read

/-- Where nothing is written for an empty name, an empty name is read. -/
private theorem Node.decode_accessed (name : String) :
    Shape.text.decode ((if name = "" then none else some (.str name)).getD (.str "")) = .ok name := by
  split
  · next h => rw [h]; rfl
  · rfl

theorem Node.reads_toJson {node : Node} (finite : ∀ p, node.position = some p → p.Finite) :
    shape.Reads ofRow node.toJson node.normal := by
  obtain ⟨place, read, made⟩ := Position.reads_optional finite
  refine ⟨(node.id, node.kind.typeName, node.kind.accessed?.getD "", place, node.defaults, ()), ?_, ?_⟩
  · rw [toJson_eq]
    refine Fields.decode_obj_record.2 ?_
    -- one step for each field: the first two are always written, the others perhaps not
    refine Fields.decodeMembers_cons_eq_ok_iff.2 ⟨Fields.decodeField_of_member (j := .str node.id) ?_, ?_⟩
    · simp [Json.filter_optionalMember]
    refine Fields.decodeMembers_cons_eq_ok_iff.2 ⟨Fields.decodeField_of_member (j := .str node.kind.typeName) ?_, ?_⟩
    · simp [Json.filter_optionalMember]
    refine Fields.decodeMembers_cons_eq_ok_iff.2
      ⟨(Fields.decodeField_of_optionalMember rfl ?_).trans (decode_accessed (node.kind.accessed?.getD "")), ?_⟩
    · simp [Json.filter_optionalMember]
    refine Fields.decodeMembers_cons_eq_ok_iff.2 ⟨(Fields.decodeField_of_optionalMember rfl ?_).trans read, ?_⟩
    · simp [Json.filter_optionalMember]
    refine Fields.decodeMembers_cons_eq_ok_iff.2
      ⟨(Fields.decodeField_of_optionalMember rfl ?_).trans (decode_defaults node.defaults), rfl⟩
    simp [Json.filter_optionalMember]
  · show Node.mk node.id (.ofNames node.kind.typeName (node.kind.accessed?.getD "")) (place.map Position.ofRow)
      node.defaults = node.normal
    rw [NodeKind.ofNames_typeName, made]
    rfl

namespace Specification

/-- A specification is made of the row of an object that has all required fields. -/
theorem ofJson_obj_eq_ok_iff {members : List (String × Json)} {spec : Specification} :
    ofJson (.obj members) = .ok spec ↔
      missingFields (Entries.names members) = [] ∧ ∃ row, shape.decode (.obj members) = .ok row ∧ ofRow row = spec := by
  unfold ofJson
  dsimp only
  cases missingFields (Entries.names members) with
  | nil =>
    dsimp only
    cases shape.decode (.obj members) with
    | ok row =>
      refine ⟨fun h => ⟨rfl, row, rfl, Except.ok.inj h⟩, ?_⟩
      rintro ⟨-, _, h, same⟩
      cases h
      exact congrArg _ same
    | error m => exact ⟨nofun, fun ⟨_, _, h, _⟩ => nomatch h⟩
  | cons _ _ => exact ⟨nofun, fun ⟨h, _⟩ => nomatch h⟩

/-- What is read from what is written is the normal form. -/
private theorem ofJson_toJson_eq {spec : Specification} (finite : spec.FinitePositions) :
    ofJson spec.toJson = .ok spec.normal := by
  have hi : (Shape.list .text).decode (.arr (spec.interfaces.map .str)) = .ok spec.interfaces :=
    mapM_eq_ok_iff.2 (List.forall₂_map_left_iff.2 (List.forall₂_same.2 fun _ _ => rfl))
  have readVars : (Shape.list Variable.shape).Reads (List.map Variable.ofRow)
      (.arr (spec.vars.map Variable.toJson)) spec.normal.vars := .list fun v _ => v.reads_toJson
  have readInputs : (Shape.list GraphInput.shape).Reads (List.map GraphInput.ofRow)
      (.arr (spec.inputs.map GraphInput.toJson)) spec.normal.inputs := .list fun pin _ => pin.reads_toJson
  have readOutputs : (Shape.list GraphOutput.shape).Reads (List.map GraphOutput.ofRow)
      (.arr (spec.outputs.map GraphOutput.toJson)) (spec.outputs.map id) := .list fun pin _ => pin.reads_toJson
  have readNodes : (Shape.list Node.shape).Reads (List.map Node.ofRow)
      (.arr (spec.nodes.map Node.toJson)) spec.normal.nodes := .list fun node hm => Node.reads_toJson (finite node hm)
  have readConnections : (Shape.list Connection.shape).Reads (List.map Connection.ofRow)
      (.arr (spec.connections.map Connection.toJson)) spec.normal.connections := .list fun c _ => c.reads_toJson
  obtain ⟨vars, hv, sameVars⟩ := readVars
  obtain ⟨inputs, hin, sameInputs⟩ := readInputs
  obtain ⟨outputs, ho, sameOutputs⟩ := readOutputs
  obtain ⟨nodes, hn, sameNodes⟩ := readNodes
  obtain ⟨connections, hc, sameConnections⟩ := readConnections
  rw [List.map_id] at sameOutputs
  have read : shape.decode spec.toJson =
      .ok (spec.name, spec.assetType, spec.interfaces, vars, inputs, outputs, nodes, connections, ()) :=
    Fields.decode_obj_record.2 <|
      Fields.decodeMembers_cons_eq_ok_iff.2 ⟨rfl, Fields.decodeMembers_cons_eq_ok_iff.2 ⟨rfl,
      Fields.decodeMembers_cons_eq_ok_iff.2 ⟨hi, Fields.decodeMembers_cons_eq_ok_iff.2 ⟨hv,
      Fields.decodeMembers_cons_eq_ok_iff.2 ⟨hin, Fields.decodeMembers_cons_eq_ok_iff.2 ⟨ho,
      Fields.decodeMembers_cons_eq_ok_iff.2 ⟨hn, Fields.decodeMembers_cons_eq_ok_iff.2 ⟨hc, rfl⟩⟩⟩⟩⟩⟩⟩⟩
  have made : ofRow (spec.name, spec.assetType, spec.interfaces, vars, inputs, outputs, nodes, connections, ()) =
      spec.normal := by
    simp only [ofRow, sameVars, sameInputs, sameOutputs, sameNodes, sameConnections]
    rfl
  have complete : missingFields ["name", "asset_type", "interfaces", "variables", "inputs", "outputs", "nodes",
      "connections"] = [] := by decide
  exact ofJson_obj_eq_ok_iff.2 ⟨complete, _, read, made⟩

end Specification

/-! ### What can be read -/

theorem Json.normalValue_of_readable {value : Option Json} (h : (Shape.nullable .literal).Readable value) :
    normalValue value = value := by
  refine normalValue_of_ne_null ?_
  rintro rfl
  obtain ⟨document, hn, read⟩ := h.nullable
  exact hn (Except.ok.inj read)

theorem Variable.normal_ofRow {row : shape.Value} (h : shape.Readable row) : (ofRow row).normal = ofRow row := by
  obtain ⟨-, -, literal, -⟩ := h.record
  obtain ⟨name, pinType, default, ⟨⟩⟩ := row
  exact congrArg (Variable.mk name pinType) (Json.normalValue_of_readable literal)

theorem GraphInput.normal_ofRow {row : shape.Value} (h : shape.Readable row) : (ofRow row).normal = ofRow row := by
  obtain ⟨-, -, literal, -⟩ := h.record
  obtain ⟨name, pinType, default, ⟨⟩⟩ := row
  exact congrArg (GraphInput.mk name pinType) (Json.normalValue_of_readable literal)

theorem Node.normal_ofRow (row : shape.Value) : (ofRow row).normal = ofRow row := by
  obtain ⟨id, typeName, accessed, position, defaults, ⟨⟩⟩ := row
  exact congrArg (Node.mk id · (position.map Position.ofRow) defaults) (NodeKind.normal_ofNames typeName accessed)

theorem Connection.normal_ofRow (row : shape.Value) : (ofRow row).normal = ofRow row := by
  obtain ⟨source, sourcePin, destination, destinationPin, ⟨⟩⟩ := row
  exact congrArg₂ (Connection.mk · sourcePin · destinationPin) (Endpoint.normal_ofName source)
    (Endpoint.normal_ofName destination)

theorem Position.finite_of_map_ofRow {row : Option shape.Value} {p : Position} (h : row.map ofRow = some p) :
    p.Finite := by
  obtain ⟨⟨x, y, ⟨⟩⟩, -, rfl⟩ := Option.map_eq_some_iff.1 h
  exact ⟨x.property, y.property⟩

theorem Node.finite_ofRow (row : shape.Value) : ∀ p, (ofRow row).position = some p → p.Finite := by
  obtain ⟨id, typeName, accessed, position, defaults, ⟨⟩⟩ := row
  exact fun _ => Position.finite_of_map_ofRow

namespace Specification

/-- A specification is in normal form if all its parts are. -/
theorem normal_eq_self {spec : Specification} (vars : ∀ v ∈ spec.vars, v.normal = v)
    (inputs : ∀ pin ∈ spec.inputs, pin.normal = pin) (nodes : ∀ node ∈ spec.nodes, node.normal = node)
    (connections : ∀ c ∈ spec.connections, c.normal = c) : spec.normal = spec := by
  have hv := (List.map_congr_left vars).trans (List.map_id _)
  have hi := (List.map_congr_left inputs).trans (List.map_id _)
  have hn := (List.map_congr_left nodes).trans (List.map_id _)
  have hc := (List.map_congr_left connections).trans (List.map_id _)
  rw [normal, hv, hi, hn, hc]

private theorem normal_idempotent (spec : Specification) : spec.normal.normal = spec.normal := by
  refine normal_eq_self ?_ ?_ ?_ ?_ <;> refine List.forall_mem_map.2 fun part _ => ?_
  · exact congrArg (Variable.mk part.name part.pinType) (Json.normalValue_normalValue part.default)
  · exact congrArg (GraphInput.mk part.name part.pinType) (Json.normalValue_normalValue part.default)
  · exact congrArg (Node.mk part.id · part.position part.defaults) part.kind.normal_normal
  · exact congrArg₂ (Connection.mk · part.sourcePin · part.destinationPin) part.source.normal_normal
      part.destination.normal_normal

theorem normal_ofRow {row : shape.Value} (h : shape.Readable row) : (ofRow row).normal = ofRow row := by
  obtain ⟨-, -, -, vars, inputs, -, -, -, -⟩ := h.record
  obtain ⟨name, assetType, interfaces, varRows, inputRows, outputRows, nodeRows, connectionRows, ⟨⟩⟩ := row
  refine normal_eq_self ?_ ?_ ?_ ?_ <;> refine List.forall_mem_map.2 fun part hm => ?_
  · exact Variable.normal_ofRow (vars.of_mem part hm)
  · exact GraphInput.normal_ofRow (inputs.of_mem part hm)
  · exact Node.normal_ofRow part
  · exact Connection.normal_ofRow part

theorem finitePositions_ofRow (row : shape.Value) : (ofRow row).FinitePositions := by
  obtain ⟨name, assetType, interfaces, vars, inputs, outputs, nodes, connections, ⟨⟩⟩ := row
  intro node hm
  obtain ⟨row, -, rfl⟩ := List.mem_map.1 hm
  exact Node.finite_ofRow row

/-- What is read from a document is made of a row that can be read. -/
private theorem exists_row_of_ofJson {document : Json} {spec : Specification} (h : ofJson document = .ok spec) :
    ∃ row, shape.Readable row ∧ ofRow row = spec := by
  cases document with
  | obj members =>
    obtain ⟨-, row, read, made⟩ := ofJson_obj_eq_ok_iff.1 h
    exact ⟨row, ⟨_, read⟩, made⟩
  | _ => cases h

/-- What is read is in normal form. -/
theorem normal_of_ofJson {document : Json} {spec : Specification} (h : ofJson document = .ok spec) :
    spec.normal = spec := by
  obtain ⟨row, readable, rfl⟩ := exists_row_of_ofJson h
  exact normal_ofRow readable

/-- What is read has finite positions. -/
theorem finitePositions_of_ofJson {document : Json} {spec : Specification} (h : ofJson document = .ok spec) :
    spec.FinitePositions := by
  obtain ⟨row, -, rfl⟩ := exists_row_of_ofJson h
  exact finitePositions_ofRow row

/-- Writing a specification and reading it again gives its normal form and nothing else. -/
theorem ofJson_toJson_normal :
    (∀ spec : Specification, spec.FinitePositions → ofJson spec.toJson = .ok spec.normal) ∧
    (∀ spec : Specification, spec.normal.normal = spec.normal) ∧
    (∀ spec, (∃ document, ofJson document = .ok spec) ↔ spec.normal = spec ∧ spec.FinitePositions) ∧
    ∀ document spec, ofJson document = .ok spec → ofJson spec.toJson = .ok spec := by
  have reread : ∀ spec : Specification, spec.normal = spec → spec.FinitePositions →
      ofJson spec.toJson = .ok spec := fun spec same finite => (ofJson_toJson_eq finite).trans (congrArg _ same)
  refine ⟨fun spec => ofJson_toJson_eq, normal_idempotent, fun spec => ?_, fun document spec h => ?_⟩
  · constructor
    · rintro ⟨document, h⟩
      exact ⟨normal_of_ofJson h, finitePositions_of_ofJson h⟩
    · rintro ⟨same, finite⟩
      exact ⟨spec.toJson, reread spec same finite⟩
  · exact reread spec (normal_of_ofJson h) (finitePositions_of_ofJson h)

/-- A specification that documents cannot tell from its normal form: it has a null initial value, a node of a reserved
type, and a connection to a node with the name of the boundary. -/
def ambiguous : Specification :=
  { empty "Ambiguous" "MetaSoundSource" with
    vars := [⟨"Gain", "Float", some .null⟩]
    nodes := [(Node.ofKind "tail" (.external NodeKind.writeType)).placedAt 100 (-2.5)]
    connections := [⟨.node Endpoint.boundaryName, "Gain", .node "tail", "Value"⟩] }

theorem ofJson_toJson_ambiguous :
    ambiguous.FinitePositions ∧ ofJson ambiguous.toJson = .ok ambiguous.normal ∧
    ofJson ambiguous.normal.toJson = .ok ambiguous.normal ∧
    ambiguous.normal =
      { ambiguous with
        vars := [⟨"Gain", "Float", none⟩]
        nodes := [(Node.ofKind "tail" (.write "")).placedAt 100 (-2.5)]
        connections := [⟨.boundary, "Gain", .node "tail", "Value"⟩] } := by
  have finite : ambiguous.FinitePositions := by
    intro node hm p hp
    obtain rfl := List.mem_singleton.1 hm
    cases hp
    exact ⟨by decide, by decide⟩
  have read := ofJson_toJson_normal.1 ambiguous finite
  exact ⟨finite, read, ofJson_toJson_normal.2.2.2 _ _ read, by decide⟩

end Specification

end AudioGraph
