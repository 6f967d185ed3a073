import AudioGraph.Script.Compile
import AudioGraph.Script.Document
import AudioGraph.Proofs.Script.Order
import AudioGraph.Proofs.Specification.NormalForm

/-!
# The normal form of scripts

Writing a script and reading it again loses what documents cannot tell: a connection at a node that has the name of
the boundary is taken for one at the boundary, and an initial value null for none.  `Operation.normal` makes these
changes to an operation, and no others.

* (tags) An operation is written with the word for its action, which is the name of the action, beside fields of this
  action (`Operation.names_members_subset`).  None of them has the name of the tag, so that the action is there once
  (`Operation.filter_tag_members`).
* (round trip) Each operation is read as its normal form from what is written of it (`Operation.ofJson_toJson`).
* (image) What is read from any document is in normal form and places nodes at finite positions
  (`Operation.normal_of_ofJson`, `Operation.finitePlacement_of_ofJson`).
* (scripts of specifications) The script of a specification in normal form is in normal form (`map_normal_script`).
-/

namespace AudioGraph

/-! ### Normal forms -/

namespace Operation

/-- The operation as documents tell it. -/
def normal : Operation → Operation
  | declareVariable name pinType default => declareVariable name pinType (Json.normalValue default)
  | declareGraphInput name pinType default => declareGraphInput name pinType (Json.normalValue default)
  | connect c => connect c.normal
  | op => op

/-- Where an operation places a node, if it says so. -/
def placement? : Operation → Option Position
  | placeNode _ _ placement => placement
  | _ => none

/-- A node is placed at a finite position, or at none. -/
def FinitePlacement (op : Operation) : Prop := ∀ p, op.placement? = some p → p.Finite

end Operation

/-! ### Tags -/

theorem Action.tag_notMem_names (action : Action) : tag ∉ action.fields.names := by
  cases action <;> decide

/-- The action is read from where it is written, if it is written once. -/
theorem Action.ofMembers_of_ne_tag {action : Action} {members : List (String × Json)}
    (others : ∀ m ∈ members, m.1 ≠ tag) : ofMembers (some action) members = .ok action := by
  induction members with
  | nil => rfl
  | cons m rest ih =>
    rw [List.forall_mem_cons] at others
    rw [ofMembers, if_neg others.1, ih others.2]

namespace Operation

/-- What is written of an operation are fields of its action. -/
theorem names_members_subset (op : Operation) : Entries.names op.members ⊆ op.action.fields.names := by
  have optional (known : List (String × Json)) (name : String) (j : Option Json) :
      Entries.names (known ++ Json.optionalMember name j) ⊆ Entries.names known ++ [name] := by
    cases j <;> simp [Entries.names, Json.optionalMember]
  cases op with
  | declareVariable name pinType default => exact optional _ _ default
  | declareGraphInput name pinType default => exact optional _ _ default
  | placeNode id typeName placement => exact optional _ _ (placement.map Position.toJson)
  | _ => exact List.Subset.refl _

theorem ne_tag_of_mem_members {op : Operation} : ∀ m ∈ op.members, m.1 ≠ Action.tag := by
  intro m hm same
  have name : m.1 ∈ op.action.fields.names := op.names_members_subset (List.mem_map.2 ⟨m, hm, rfl⟩)
  exact op.action.tag_notMem_names (same ▸ name)

/-- An operation is written with the name of its action, and with it only once. -/
theorem filter_tag_members (op : Operation) :
    ((Action.tag, Json.str op.action.word) :: op.members).filter (fun m => m.1 == Action.tag) =
      [(Action.tag, .str op.action.name)] := by
  have others : op.members.filter (fun m => m.1 == Action.tag) = [] :=
    List.filter_eq_nil_iff.2 fun m hm same => ne_tag_of_mem_members m hm (beq_iff_eq.1 same)
  rw [List.filter_cons_of_pos rfl, others, Action.word_eq_name]

/-! ### Round trips -/

theorem reads_members {op : Operation} (finite : op.FinitePlacement) :
    op.action.shape.Reads (ofRow op.action) (.obj op.members) op.normal := by
  -- where all fields are written, they are read as they stand; a default and a placement may be left out
  cases op with
  | beginGraph assetKind name => exact ⟨(assetKind, name, ()), rfl, rfl⟩
  | attachInterface name => exact ⟨(name, ()), rfl, rfl⟩
  | declareVariable name pinType default => exact ⟨_, Shape.decode_declaration _ name pinType default, rfl⟩
  | declareGraphInput name pinType default => exact ⟨_, Shape.decode_declaration _ name pinType default, rfl⟩
  | declareGraphOutput name pinType => exact ⟨(name, pinType, ()), rfl, rfl⟩
  | placeNode id typeName placement =>
    have position : ∀ p, placement = some p → p.Finite := finite
    obtain ⟨place, read, made⟩ := Position.reads_optional position
    refine ⟨(id, typeName, place, ()), ?_, congrArg (placeNode id typeName) made⟩
    refine Fields.decode_obj_record.2 ?_
    refine Fields.decodeMembers_cons_eq_ok_iff.2 ⟨Fields.decodeField_of_member (j := .str id) ?_, ?_⟩
    · simp [members, Json.filter_optionalMember]
    refine Fields.decodeMembers_cons_eq_ok_iff.2 ⟨Fields.decodeField_of_member (j := .str typeName) ?_, ?_⟩
    · simp [members, Json.filter_optionalMember]
    refine Fields.decodeMembers_cons_eq_ok_iff.2 ⟨(Fields.decodeField_of_optionalMember rfl ?_).trans read, rfl⟩
    simp [members, Json.filter_optionalMember]
  | placeVariableRead id name delayed => exact ⟨(id, name, delayed, ()), rfl, rfl⟩
  | placeVariableWrite id name => exact ⟨(id, name, ()), rfl, rfl⟩
  | setDefault node input value => exact ⟨(node, input, value, ()), rfl, rfl⟩
  | connect c =>
    obtain ⟨row, read, made⟩ := c.reads_toJson
    exact ⟨row, read, congrArg connect made⟩
  | finalize name targetLocation => exact ⟨(name, targetLocation, ()), rfl, rfl⟩

/-- What is read from what is written is the normal form. -/
theorem ofJson_toJson {op : Operation} (finite : op.FinitePlacement) : ofJson op.toJson = .ok op.normal := by
  obtain ⟨row, read, made⟩ := reads_members finite
  have tagged : Action.ofMembers none ((Action.tag, .str op.action.word) :: op.members) = .ok op.action := by
    rw [Action.ofMembers, if_pos rfl, Action.ofJson]
    simp only [Action.ofWord?_word]
    exact Action.ofMembers_of_ne_tag ne_tag_of_mem_members
  have fields : ((Action.tag, Json.str op.action.word) :: op.members).filter (fun m => m.1 != Action.tag) =
      op.members := by
    rw [List.filter_cons_of_neg (by simp), List.filter_eq_self]
    exact fun m hm => bne_iff_ne.2 (ne_tag_of_mem_members m hm)
  rw [toJson, ofJson, tagged, fields]
  exact map_eq_ok_iff.2 ⟨row, read, made⟩

theorem scriptOfJson_scriptJson {script : List Operation} (finite : ∀ op ∈ script, op.FinitePlacement) :
    scriptOfJson (scriptJson script) = .ok (script.map normal) := by
  rw [scriptJson, scriptOfJson, mapM_eq_ok_iff, List.forall₂_map_left_iff, List.forall₂_map_right_iff,
    List.forall₂_same]
  exact fun op hm => ofJson_toJson (finite op hm)

/-! ### What can be read -/

theorem normal_ofRow {action : Action} {row : action.shape.Value} (h : action.shape.Readable row) :
    (ofRow action row).normal = ofRow action row := by
  cases action with
  | declareVariable =>
    obtain ⟨-, -, literal, -⟩ := h.record
    obtain ⟨name, pinType, default, ⟨⟩⟩ := row
    exact congrArg (declareVariable name pinType) (Json.normalValue_of_readable literal)
  | declareGraphInput =>
    obtain ⟨-, -, literal, -⟩ := h.record
    obtain ⟨name, pinType, default, ⟨⟩⟩ := row
    exact congrArg (declareGraphInput name pinType) (Json.normalValue_of_readable literal)
  | connect => exact congrArg connect (Connection.normal_ofRow row)
  | _ => rfl

theorem finitePlacement_ofRow {action : Action} (row : action.shape.Value) : (ofRow action row).FinitePlacement := by
  intro p hp
  cases action with
  | placeNode => exact Position.finite_of_map_ofRow hp
  | _ => cases hp

/-- What is read from a document is made of a row that can be read. -/
theorem exists_row_of_ofJson {document : Json} {op : Operation} (h : ofJson document = .ok op) :
    ∃ (action : Action) (row : action.shape.Value), action.shape.Readable row ∧ ofRow action row = op := by
  -- the action comes from a member or from the first item, and the fields from what is left
  have fields {action : Action} {j : Json} (h : ofRow action <$> action.shape.decode j = .ok op) :
      ∃ (action : Action) (row : action.shape.Value), action.shape.Readable row ∧ ofRow action row = op := by
    obtain ⟨row, read, made⟩ := map_eq_ok_iff.1 h
    exact ⟨action, row, ⟨j, read⟩, made⟩
  unfold ofJson at h
  split at h
  · obtain ⟨action, -, h⟩ := bind_eq_ok_iff.1 h
    exact fields h
  · cases h
  · obtain ⟨action, -, h⟩ := bind_eq_ok_iff.1 h
    exact fields h
  · cases h

theorem normal_of_ofJson {document : Json} {op : Operation} (h : ofJson document = .ok op) : op.normal = op := by
  obtain ⟨action, row, readable, rfl⟩ := exists_row_of_ofJson h
  exact normal_ofRow readable

theorem finitePlacement_of_ofJson {document : Json} {op : Operation} (h : ofJson document = .ok op) :
    op.FinitePlacement := by
  obtain ⟨action, row, -, rfl⟩ := exists_row_of_ofJson h
  exact finitePlacement_ofRow row

theorem exists_of_mem_scriptOfJson {document : Json} {script : List Operation}
    (h : scriptOfJson document = .ok script) : ∀ op ∈ script, ∃ item, ofJson item = .ok op := by
  unfold scriptOfJson at h
  split at h
  · intro op hm
    obtain ⟨item, -, read⟩ := (mem_iff_of_mapM_eq_ok h op).1 hm
    exact ⟨item, read⟩
  · cases h

end Operation

/-! ### Scripts of specifications -/

namespace Node

theorem normal_placement (node : Node) : node.placement.normal = node.placement := by
  unfold placement
  cases node.kind <;> rfl

theorem map_normal_settings (node : Node) : node.settings.map Operation.normal = node.settings := by
  refine (List.map_congr_left fun op hm => ?_).trans (List.map_id _)
  obtain ⟨-, entry, -, rfl⟩ := mem_settings_iff.1 hm
  rfl

theorem position_of_placement {node : Node} {p : Position} (h : node.placement.placement? = some p) :
    node.position = some p := by
  unfold placement at h
  cases kind : node.kind with
  | external typeName => rwa [kind] at h
  | _ =>
    rw [kind] at h
    cases h

end Node

namespace Specification

variable {spec : Specification}

/-- The script as documents tell it is that of the specification as documents tell it, but for the kinds of nodes. -/
theorem map_normal_script (spec : Specification) (target : String) :
    (spec.script target).map Operation.normal = { spec.normal with nodes := spec.nodes }.script target := by
  have places : Operation.normal ∘ Node.placement = Node.placement := funext Node.normal_placement
  simp only [script, normal, List.map_append, List.map_map, List.map_flatMap, Node.map_normal_settings, places]
  rfl

theorem map_normal_script_of_normal (same : spec.normal = spec) (target : String) :
    (spec.script target).map Operation.normal = spec.script target := by
  rw [map_normal_script, same]

theorem finitePlacement_of_mem_script (finite : spec.FinitePositions) {target : String} {op : Operation}
    (hm : op ∈ spec.script target) : op.FinitePlacement := by
  intro p hp
  cases op with
  | placeNode id typeName placement =>
    obtain ⟨node, hn, same⟩ := List.mem_map.1 (mem_script_iff.1 hm)
    exact finite node hn p (node.position_of_placement (same ▸ hp))
  | _ => cases hp

end Specification

namespace Operation

/-- Writing a script and reading it again gives its normal form, so that what was read once, and the script of a
specification that was read, stay as they are.  Every operation is written with its action. -/
theorem scriptOfJson_scriptJson_normal :
    (∀ script : List Operation, (∀ op ∈ script, op.FinitePlacement) →
      scriptOfJson (scriptJson script) = .ok (script.map normal)) ∧
    (∀ document script, scriptOfJson document = .ok script → scriptOfJson (scriptJson script) = .ok script) ∧
    (∀ document spec, Specification.ofJson document = .ok spec → ∀ target,
      scriptOfJson (scriptJson (spec.script target)) = .ok (spec.script target)) ∧
    ∀ script : List Operation, ∃ documents, scriptJson script = .arr documents ∧
      List.Forall₂ (fun op document => ∃ members, document = .obj members ∧
        members.filter (fun m => m.1 == Action.tag) = [(Action.tag, .str op.action.name)]) script documents := by
  have reread : ∀ script : List Operation, (∀ op ∈ script, op.FinitePlacement) → script.map normal = script →
      scriptOfJson (scriptJson script) = .ok script :=
    fun script finite same => (scriptOfJson_scriptJson finite).trans (congrArg _ same)
  refine ⟨fun script => scriptOfJson_scriptJson, fun document script h => ?_, fun document spec h target => ?_,
    fun script => ⟨script.map toJson, rfl, ?_⟩⟩
  · have read := exists_of_mem_scriptOfJson h
    refine reread script (fun op hm => ?_) ((List.map_congr_left fun op hm => ?_).trans (List.map_id _))
    · obtain ⟨item, hi⟩ := read op hm
      exact finitePlacement_of_ofJson hi
    · obtain ⟨item, hi⟩ := read op hm
      exact normal_of_ofJson hi
  · exact reread (spec.script target)
      (fun op hm => Specification.finitePlacement_of_mem_script (Specification.finitePositions_of_ofJson h) hm)
      (Specification.map_normal_script_of_normal (Specification.normal_of_ofJson h) target)
  · rw [List.forall₂_map_right_iff, List.forall₂_same]
    exact fun op _ => ⟨_, rfl, op.filter_tag_members⟩

/-- A script that documents cannot tell from its normal form: it has a null initial value, and a connection from a node
with the name of the boundary. -/
def blurred : List Operation :=
  [.declareVariable "Gain" "Float" (some .null), .placeNode "tail" "Sine" (some ⟨100, -2.5⟩),
    .connect ⟨.node Endpoint.boundaryName, "Gain", .node "tail", "Frequency"⟩]

theorem scriptOfJson_scriptJson_blurred :
    (∀ op ∈ blurred, op.FinitePlacement) ∧ scriptOfJson (scriptJson blurred) = .ok (blurred.map normal) ∧
    scriptOfJson (scriptJson (blurred.map normal)) = .ok (blurred.map normal) ∧
    blurred.map normal =
      [.declareVariable "Gain" "Float" none, .placeNode "tail" "Sine" (some ⟨100, -2.5⟩),
        .connect ⟨.boundary, "Gain", .node "tail", "Frequency"⟩] ∧
    Specification.ofJson Specification.ambiguous.toJson = .ok Specification.ambiguous.normal ∧
    scriptOfJson (scriptJson (Specification.ambiguous.normal.script defaultTarget)) =
      .ok (Specification.ambiguous.normal.script defaultTarget) := by
  have finite : ∀ op ∈ blurred, op.FinitePlacement := by
    simp only [blurred, List.forall_mem_cons]
    refine ⟨nofun, fun p hp => ?_, nofun, nofun⟩
    cases hp
    exact ⟨by decide, by decide⟩
  obtain ⟨writes, rereads, scripts, -⟩ := scriptOfJson_scriptJson_normal
  have read := writes blurred finite
  have spec : Specification.ofJson Specification.ambiguous.toJson = .ok Specification.ambiguous.normal := by
    decide +kernel
  exact ⟨finite, read, rereads _ _ read, by decide, spec, scripts _ _ spec defaultTarget⟩

end Operation

end AudioGraph
