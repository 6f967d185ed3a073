import AudioGraph.Report
import AudioGraph.Proofs.Shape.Spelling
import AudioGraph.Proofs.Specification.Spelling

/-!
# Which documents are read, and why the others are not

A document is looked at in two steps.  An object that lacks required fields is refused for these fields, all of them at
once, and nothing else of it is looked at; whether a field is there is a matter of its name, not of what it holds.  Only
what has all required fields can be refused for its shape, or read.

* (refusals) An object lacks the fields that are reported (`lacks_missingFields`), and every other refusal is for
  something else (`refused_of_ofJson`).
* (specifications) What is read holds the name and the asset type of the document, and one part for each item of each of
  its lists, in their order (`readFrom_of_ofJson`).
-/

namespace AudioGraph

universe u

variable {members : List (String × Json)}

/-! ### Lists of a document -/

/-- A member of an object is a list from whose items some parts are read, one from each, in their order. -/
def Lists {α : Type u} (members : List (String × Json)) (field : String) (read : Json → α → Prop) (parts : List α) :
    Prop :=
  ∃ items, Entries.get? field members = some (.arr items) ∧ List.Forall₂ read items parts

/-- An object has no member of a name, and there are no parts. -/
def ListsNothing {α : Type u} (members : List (String × Json)) (field : String) (parts : List α) : Prop :=
  field ∉ Entries.names members ∧ parts = []

section

variable {α : Type u} {field : String} {item : Shape} {make : item.Value → α} {read : Json → α → Prop}
  {xs : List item.Value} {parts : List α}

private theorem forall₂_map_make (reads : ∀ j x, item.decode j = .ok x → read j (make x)) {items : List Json}
    (h : List.Forall₂ (fun j x => item.decode j = .ok x) items xs) : List.Forall₂ read items (xs.map make) :=
  List.forall₂_map_right_iff.2 (h.imp reads)

theorem lists_of_decodeField (reads : ∀ j x, item.decode j = .ok x → read j (make x))
    (h : Fields.decodeField field .required (.list item) members = .ok xs) (made : xs.map make = parts) :
    Lists members field read parts := by
  subst made
  obtain ⟨j, there, hj⟩ := Fields.decodeField_eq_ok_iff.1 h
  obtain ⟨items, rfl, hitems⟩ := Shape.decode_list_eq_ok_iff.1 hj
  rcases Fields.document?_cases there with there | ⟨-, neutral⟩
  · exact ⟨items, there, forall₂_map_make reads hitems⟩
  · cases neutral

theorem lists_of_decodeField_optional (reads : ∀ j x, item.decode j = .ok x → read j (make x))
    (h : Fields.decodeField field (.optional (.arr [])) (.list item) members = .ok xs)
    (made : xs.map make = parts) : Lists members field read parts ∨ ListsNothing members field parts := by
  subst made
  obtain ⟨j, there, hj⟩ := Fields.decodeField_eq_ok_iff.1 h
  obtain ⟨items, rfl, hitems⟩ := Shape.decode_list_eq_ok_iff.1 hj
  rcases Fields.document?_cases there with there | ⟨absent, neutral⟩
  · exact .inl ⟨items, there, forall₂_map_make reads hitems⟩
  · cases neutral
    cases hitems
    refine .inr ⟨?_, rfl⟩
    rw [← Entries.isSome_get?_iff, absent]
    nofun

end

theorem Shape.eq_str_of_decode {j : Json} {s : String} (h : text.decode j = .ok s) : j = .str s := by
  cases j with
  | str other => exact congrArg Json.str (Except.ok.inj h)
  | _ => cases h

theorem get?_of_decodeField_text {field s : String} (h : Fields.decodeField field .required .text members = .ok s) :
    Entries.get? field members = some (.str s) := by
  obtain ⟨j, there, hj⟩ := Fields.decodeField_eq_ok_iff.1 h
  obtain rfl := Shape.eq_str_of_decode hj
  rcases Fields.document?_cases there with there | ⟨-, neutral⟩
  · exact there
  · cases neutral

namespace Specification

/-! ### Refusals -/

/-- Some required fields are those that an object lacks, in ascending order. -/
structure Lacks (members : List (String × Json)) (missing : List String) : Prop where
  ascending : missing.Pairwise (· < ·)
  mem_iff : ∀ field, field ∈ missing ↔
    field ∈ ["name", "asset_type", "nodes", "connections"] ∧ field ∉ Entries.names members

/-- A document is an object that lacks a required field. -/
def Incomplete (document : Json) : Prop :=
  ∃ members, document = .obj members ∧
    ∃ field ∈ ["name", "asset_type", "nodes", "connections"], field ∉ Entries.names members

theorem lacks_missingFields (members : List (String × Json)) :
    Lacks members (missingFields (Entries.names members)) where
  ascending := List.Pairwise.filter _ (by decide)
  mem_iff field := by
    have same : field ∈ requiredFields ↔ field ∈ ["name", "asset_type", "nodes", "connections"] := by
      simp only [requiredFields, List.mem_cons, List.not_mem_nil, or_false]
      tauto
    rw [missingFields, List.mem_filter, same]
    simp

theorem incomplete_obj_iff : Incomplete (.obj members) ↔ missingFields (Entries.names members) ≠ [] := by
  have lacks := lacks_missingFields members
  constructor
  · rintro ⟨_, same, field, required, absent⟩
    cases same
    exact List.ne_nil_of_mem ((lacks.mem_iff field).2 ⟨required, absent⟩)
  · intro missing
    obtain ⟨field, hm⟩ := List.exists_mem_of_ne_nil _ missing
    obtain ⟨required, absent⟩ := (lacks.mem_iff field).1 hm
    exact ⟨members, rfl, field, required, absent⟩

theorem ofJson_of_incomplete (incomplete : Incomplete (.obj members)) :
    ofJson (.obj members) = .error (.missingFields (missingFields (Entries.names members))) := by
  have some_missing := incomplete_obj_iff.1 incomplete
  unfold ofJson
  dsimp only
  split
  · next none => exact absurd none some_missing
  · rfl

/-- What is not refused for missing fields is refused for something else. -/
theorem code_of_complete {document : Json} {e : ParseError} (complete : ¬ Incomplete document)
    (refused : ofJson document = .error e) :
    ∃ message, e.toDiagnostic = ⟨"P001", .parse, .structural, message, none⟩ := by
  cases document with
  | obj members =>
    have none_missing : missingFields (Entries.names members) = [] := by
      rw [incomplete_obj_iff, not_not] at complete
      exact complete
    unfold ofJson at refused
    simp only [none_missing] at refused
    split at refused
    · cases refused
    · cases refused
      exact ⟨_, rfl⟩
  | _ =>
    cases refused
    exact ⟨_, rfl⟩

/-! ### Specifications -/

/-- A specification is what the members of an object say: it has the name and the asset type that stand there, and one
part for each item of each list. -/
structure ReadFrom (spec : Specification) (members : List (String × Json)) : Prop where
  complete : ∀ field ∈ ["name", "asset_type", "nodes", "connections"], field ∈ Entries.names members
  name : Entries.get? "name" members = some (.str spec.name)
  assetType : Entries.get? "asset_type" members = some (.str spec.assetType)
  interfaces : Lists members "interfaces" (fun item name => item = .str name) spec.interfaces ∨
    ListsNothing members "interfaces" spec.interfaces
  vars : Lists members "variables" (Variable.shape.Reads Variable.ofRow) spec.vars ∨
    ListsNothing members "variables" spec.vars
  inputs : Lists members "inputs" (GraphInput.shape.Reads GraphInput.ofRow) spec.inputs ∨
    ListsNothing members "inputs" spec.inputs
  outputs : Lists members "outputs" (GraphOutput.shape.Reads GraphOutput.ofRow) spec.outputs ∨
    ListsNothing members "outputs" spec.outputs
  nodes : Lists members "nodes" (Node.shape.Reads Node.ofRow) spec.nodes
  connections : Lists members "connections" (Connection.shape.Reads Connection.ofRow) spec.connections

theorem readFrom_of_ofJson {spec : Specification} (h : ofJson (.obj members) = .ok spec) : spec.ReadFrom members := by
  obtain ⟨row, read, rfl⟩ := ofJson_obj_eq_ok_iff_decode.1 h
  obtain ⟨name, assetType, interfaces, vars, inputs, outputs, nodes, connections, ⟨⟩⟩ := row
  -- one step for each field, in the order of the fields
  obtain ⟨hname, fields⟩ := Fields.decodeMembers_cons_eq_ok_iff.1 (Fields.decode_obj_record.1 read)
  obtain ⟨hasset, fields⟩ := Fields.decodeMembers_cons_eq_ok_iff.1 fields
  obtain ⟨hinterfaces, fields⟩ := Fields.decodeMembers_cons_eq_ok_iff.1 fields
  obtain ⟨hvars, fields⟩ := Fields.decodeMembers_cons_eq_ok_iff.1 fields
  obtain ⟨hinputs, fields⟩ := Fields.decodeMembers_cons_eq_ok_iff.1 fields
  obtain ⟨houtputs, fields⟩ := Fields.decodeMembers_cons_eq_ok_iff.1 fields
  obtain ⟨hnodes, fields⟩ := Fields.decodeMembers_cons_eq_ok_iff.1 fields
  obtain ⟨hconnections, -⟩ := Fields.decodeMembers_cons_eq_ok_iff.1 fields
  refine
    { complete := ?_
      name := get?_of_decodeField_text hname
      assetType := get?_of_decodeField_text hasset
      interfaces :=
        lists_of_decodeField_optional (fun _ _ => Shape.eq_str_of_decode) hinterfaces (List.map_id interfaces)
      vars := lists_of_decodeField_optional (fun _ row read => ⟨row, read, rfl⟩) hvars rfl
      inputs := lists_of_decodeField_optional (fun _ row read => ⟨row, read, rfl⟩) hinputs rfl
      outputs := lists_of_decodeField_optional (fun _ row read => ⟨row, read, rfl⟩) houtputs rfl
      nodes := lists_of_decodeField (fun _ row read => ⟨row, read, rfl⟩) hnodes rfl
      connections := lists_of_decodeField (fun _ row read => ⟨row, read, rfl⟩) hconnections rfl }
  intro field required
  by_contra absent
  exact incomplete_obj_iff.1 ⟨members, rfl, field, required, absent⟩ (missingFields_eq_nil read)

/-! ### All documents -/

/-- A document is read, or refused with a single diagnostic.  It is refused for missing fields exactly if it is an
object that lacks a required one, and then all of these are told; every other refusal is under the other code; and what
is read is what the document says. -/
theorem ofJson_triage (document : Json) :
    ((∃ e, ofJson document = .error e ∧ e.toDiagnostic.code = "P002") ↔ Incomplete document) ∧
    (∀ e, ofJson document = .error e →
      (∀ text catalogue, Json.ofText text = .ok document → validateText text catalogue = [e.toDiagnostic]) ∧
      ((∃ members missing, document = .obj members ∧ Lacks members missing ∧
          e.toDiagnostic = ⟨"P002", .parse, .structural,
            "Missing required top-level fields: " ++ Quoted.list missing, none⟩) ∨
        ¬ Incomplete document ∧ ∃ message, e.toDiagnostic = ⟨"P001", .parse, .structural, message, none⟩)) ∧
    ∀ spec, ofJson document = .ok spec → ∃ members, document = .obj members ∧ spec.ReadFrom members := by
  refine ⟨⟨?_, ?_⟩, fun e refused => ⟨fun text catalogue written => ?_, ?_⟩, fun spec read => ?_⟩
  · rintro ⟨e, refused, code⟩
    by_contra complete
    obtain ⟨message, told⟩ := code_of_complete complete refused
    rw [told] at code
    exact absurd (show "P001" = "P002" from code) (by decide)
  · rintro ⟨members, rfl, lacking⟩
    exact ⟨_, ofJson_of_incomplete ⟨members, rfl, lacking⟩, rfl⟩
  · have unread : ofText text = .error e := by
      rw [ofText, written]
      exact refused
    rw [validateText, unread]
  · by_cases incomplete : Incomplete document
    · obtain ⟨members, rfl, lacking⟩ := incomplete
      cases refused.symm.trans (ofJson_of_incomplete ⟨members, rfl, lacking⟩)
      exact .inl ⟨members, _, rfl, lacks_missingFields members, rfl⟩
    · exact .inr ⟨incomplete, code_of_complete incomplete refused⟩
  · cases document with
    | obj members => exact ⟨members, rfl, readFrom_of_ofJson read⟩
    | _ => cases read

/-- A document with a null for its nodes, a text for its variables and a truth value for its name. -/
def jumbled : Json := .obj [("nodes", .null), ("variables", .str "none"), ("name", .bool false)]

/-- The jumbled document is refused for the two required fields that it lacks and not for the shapes of the others, and
the document of a tone is read. -/
theorem ofJson_triage_jumbled :
    let text := "\x7b\"nodes\": null, \"variables\": \"none\", \"name\": false\x7d"
    let plain := toneDocument (.obj [("name", .str "Gain"), ("type", .str "Float")])
      (.obj [("id", .str "osc"), ("node_type", .str "Sine")])
    (∃ e, ofJson jumbled = .error e ∧ e.toDiagnostic.code = "P002") ∧ Json.ofText text = .ok jumbled ∧
    (∀ catalogue, validateText text catalogue =
      [⟨"P002", .parse, .structural, "Missing required top-level fields: [\"asset_type\", \"connections\"]", none⟩]) ∧
    ∃ spec, ofJson (.obj plain) = .ok spec ∧ ∃ members, Json.obj plain = .obj members ∧ spec.ReadFrom members := by
  intro text plain
  obtain ⟨lacking, refusals, -⟩ := ofJson_triage jumbled
  obtain ⟨-, -, specifications⟩ := ofJson_triage (.obj plain)
  have incomplete : Incomplete jumbled := ⟨_, rfl, "connections", by decide, by decide⟩
  have written : Json.ofText text = .ok jumbled := by decide +kernel
  have refused : ofJson jumbled = .error (.missingFields ["asset_type", "connections"]) := rfl
  have told : (ParseError.missingFields ["asset_type", "connections"]).toDiagnostic =
      ⟨"P002", .parse, .structural, "Missing required top-level fields: [\"asset_type\", \"connections\"]", none⟩ := by
    decide +kernel
  refine ⟨lacking.2 incomplete, written, fun catalogue => ?_, _, rfl, specifications _ rfl⟩
  rw [(refusals _ refused).1 text catalogue written, told]

end Specification

end AudioGraph
