import Mathlib.Logic.Relation
import AudioGraph.Proofs.Shape.Spelling
import AudioGraph.Proofs.Specification.NormalForm

/-!
# Spellings of a specification

A specification is read alike from documents that differ only in how they are spelled: in the order of the members of an
object, in members of unknown names, in optional fields that hold nothing, and in whether a part of the specification is
an object or the list of its fields.  The specification itself is always an object.

* (steps) One step, in the specification or in a part of it, changes nothing that is read (`ofJson_iff_of_respells`).
* (spellings) So no number of steps does, in either direction (`ofJson_of_respelled`).
-/

namespace AudioGraph

namespace Specification

/-- A step from a document of a specification to another, both of them objects. -/
def Respells (document other : Json) : Prop :=
  ∃ members others, document = .obj members ∧ other = .obj others ∧ shape.Respelling document other

theorem missingFields_eq_nil {members : List (String × Json)} {row : shape.Value}
    (h : shape.decode (.obj members) = .ok row) : missingFields (Entries.names members) = [] := by
  have read : ∀ name ∈ requiredFields, name ∈ Entries.names members := by
    intro name hn
    refine Fields.mem_names_of_decodeMembers (Fields.decode_obj_record.1 h) name ?_
    revert name
    decide
  apply List.filter_eq_nil_iff.2
  intro name hn missing
  simp [read name hn] at missing

/-- Of an object that is read, no required field is missing. -/
theorem ofJson_obj_eq_ok_iff_decode {members : List (String × Json)} {spec : Specification} :
    ofJson (.obj members) = .ok spec ↔ ∃ row, shape.decode (.obj members) = .ok row ∧ ofRow row = spec := by
  rw [ofJson_obj_eq_ok_iff]
  constructor
  · rintro ⟨-, read⟩
    exact read
  · rintro ⟨row, read, made⟩
    exact ⟨missingFields_eq_nil read, row, read, made⟩

theorem ofJson_iff_of_respells {document other : Json} {spec : Specification} (step : Respells document other) :
    ofJson document = .ok spec ↔ ofJson other = .ok spec := by
  obtain ⟨members, others, rfl, rfl, step⟩ := step
  rw [ofJson_obj_eq_ok_iff_decode, ofJson_obj_eq_ok_iff_decode]
  apply exists_congr
  intro row
  rw [Shape.decode_of_respelling step]

/-- A specification is read alike from all spellings of its document. -/
theorem ofJson_of_respelled {document other : Json} {spec : Specification} (read : ofJson document = .ok spec)
    (respelled : Relation.EqvGen Respells document other) : ofJson other = .ok spec := by
  have alike : ofJson document = .ok spec ↔ ofJson other = .ok spec := by
    clear read
    induction respelled with
    | rel _ _ step => exact ofJson_iff_of_respells step
    | refl _ => exact Iff.rfl
    | symm _ _ _ ih => exact ih.symm
    | trans _ _ _ _ _ first second => exact first.trans second
  exact alike.1 read

/-- A document with a variable and a node. -/
def toneDocument (v node : Json) : List (String × Json) :=
  [("name", .str "Tone"), ("asset_type", .str "Patch"), ("variables", .arr [v]), ("nodes", .arr [node]),
    ("connections", .arr [])]

private theorem respells_toneDocument_variable {v v' : Json} (step : Variable.shape.Respelling v v') (node : Json) :
    Respells (.obj (toneDocument v node)) (.obj (toneDocument v' node)) := by
  refine ⟨_, _, rfl, rfl, ?_⟩
  apply Shape.Respelling.field [_, _]
  · exact .there (by decide) (.there (by decide) (.there (by decide) (.here (by decide))))
  · exact .item [] [] step

private theorem respells_toneDocument_node {node node' : Json} (step : Node.shape.Respelling node node') (v : Json) :
    Respells (.obj (toneDocument v node)) (.obj (toneDocument v node')) := by
  refine ⟨_, _, rfl, rfl, ?_⟩
  apply Shape.Respelling.field [_, _, _]
  · exact .there (by decide) (.there (by decide) (.there (by decide) (.there (by decide) (.there (by decide)
      (.there (by decide) (.here (by decide)))))))
  · exact .item [] [] step

theorem ofJson_of_respelled_tone :
    let node := [("id", .str "get"), ("node_type", .str NodeKind.readType), ("variable_name", .str "Gain")]
    let plain := Json.obj (toneDocument (.obj [("name", .str "Gain"), ("type", .str "Float")]) (.obj node))
    let ornate := Json.obj (("comment", .str "A tone.") ::
      (toneDocument (.arr [.str "Gain", .str "Float", .null]) (.obj (("position", .null) :: node))).reverse)
    let tone : Specification :=
      { empty "Tone" "Patch" with vars := [⟨"Gain", "Float", none⟩], nodes := [.ofKind "get" (.read "Gain")] }
    ofJson plain = .ok tone ∧ Relation.EqvGen Respells plain ornate ∧ ofJson ornate = .ok tone := by
  intro node plain ornate tone
  have position : Node.shape.Respelling (.obj node) (.obj (("position", .null) :: node)) :=
    .neutral (.there (by decide) (.there (by decide) (.there (by decide) (.here (by decide))))) rfl (by decide)
  have turned (members : List (String × Json)) : Respells (.obj members) (.obj members.reverse) :=
    ⟨_, _, rfl, rfl, .order members.reverse_perm.symm⟩
  have comment (members : List (String × Json)) :
      Respells (.obj members) (.obj (("comment", .str "A tone.") :: members)) :=
    ⟨_, _, rfl, rfl, .unknown members _ (by decide)⟩
  have respelled : Relation.EqvGen Respells plain ornate :=
    .trans _ _ _ (.rel _ _ (respells_toneDocument_variable (.listed rfl) (.obj node)))
      (.trans _ _ _ (.rel _ _ (respells_toneDocument_node position _))
        (.trans _ _ _ (.rel _ _ (turned _)) (.rel _ _ (comment _))))
  exact ⟨rfl, respelled, ofJson_of_respelled rfl respelled⟩

end Specification

end AudioGraph
