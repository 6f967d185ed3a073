import Mathlib.Data.List.Forall2
import AudioGraph.Specification.Document
import AudioGraph.Proofs.Names

/-!
# What is read from documents

* (results) A computation that may fail succeeds exactly if all its steps do.
* (written documents) A field is read from its member or from its neutral document (`Fields.decodeField_of_member`,
  `Fields.decodeField_of_optionalMember`), a list item by item (`Shape.Reads.list`), and a table as it is written.
* (readable values) Which values can be read from some document at all (`Shape.Readable`): all fields of a record must
  be readable, and all items of a list, and what may be null is never read as a null literal.
-/

namespace AudioGraph

universe u v w

/-! ### Results -/

section
variable {ε : Type u} {α : Type v} {β : Type v}

theorem bind_eq_ok_iff {x : Except ε α} {f : α → Except ε β} {b : β} :
    x >>= f = .ok b ↔ ∃ a, x = .ok a ∧ f a = .ok b := by
  cases x with
  | ok a => exact ⟨fun h => ⟨a, rfl, h⟩, fun ⟨_, ha, h⟩ => by cases ha; exact h⟩
  | error e => exact ⟨nofun, fun ⟨_, ha, _⟩ => nomatch ha⟩

theorem map_eq_ok_iff {x : Except ε α} {f : α → β} {b : β} : f <$> x = .ok b ↔ ∃ a, x = .ok a ∧ f a = b := by
  cases x with
  | ok a => exact ⟨fun h => ⟨a, rfl, Except.ok.inj h⟩, fun ⟨_, ha, h⟩ => by cases ha; exact congrArg _ h⟩
  | error e => exact ⟨nofun, fun ⟨_, ha, _⟩ => nomatch ha⟩

/-- A list of computations succeeds exactly if each of them does. -/
theorem mapM_eq_ok_iff {f : α → Except ε β} {xs : List α} {ys : List β} :
    xs.mapM f = .ok ys ↔ List.Forall₂ (fun x y => f x = .ok y) xs ys := by
  induction xs generalizing ys with
  | nil =>
    rw [List.forall₂_nil_left_iff]
    exact ⟨fun h => (Except.ok.inj h).symm, fun h => h ▸ rfl⟩
  | cons x rest ih =>
    rw [List.mapM_cons, bind_eq_ok_iff, List.forall₂_cons_left_iff]
    refine exists_congr fun y => ?_
    simp only [bind_eq_ok_iff, ih]
    constructor
    · rintro ⟨hx, tail, hr, h⟩
      exact ⟨tail, hx, hr, (Except.ok.inj h).symm⟩
    · rintro ⟨tail, hx, hr, rfl⟩
      exact ⟨hx, tail, hr, rfl⟩

/-- The results of a list of computations are the results of some of them. -/
theorem mem_iff_of_mapM_eq_ok {f : α → Except ε β} {xs : List α} {ys : List β} (h : xs.mapM f = .ok ys) (y : β) :
    y ∈ ys ↔ ∃ x ∈ xs, f x = .ok y := by
  have results := mapM_eq_ok_iff.1 h
  clear h
  induction results with
  | nil => simp
  | cons hx _ ih => simp [hx, ih, eq_comm]

theorem exists_mapM_eq_ok_iff {f : α → Except ε β} {xs : List α} :
    (∃ ys, xs.mapM f = .ok ys) ↔ ∀ x ∈ xs, ∃ y, f x = .ok y := by
  simp only [mapM_eq_ok_iff]
  induction xs with
  | nil => simp
  | cons x rest ih =>
    rw [List.forall_mem_cons, ← ih]
    constructor
    · rintro ⟨_, results⟩
      obtain ⟨y, ys, hx, hr, -⟩ := List.forall₂_cons_left_iff.1 results
      exact ⟨⟨y, hx⟩, ys, hr⟩
    · rintro ⟨⟨y, hx⟩, ys, hr⟩
      exact ⟨y :: ys, .cons hx hr⟩

end

/-! ### Written documents -/

namespace Shape

theorem decode_obj_table (item : Shape) (members : List (String × Json)) :
    (table item).decode (.obj members) =
      (Table.ofList <$> members.mapM fun m => (m.1, ·) <$> item.decode m.2 : Except Misfit (Table item.Value)) := rfl

/-- A document is read as something, if its value is turned into this by a function. -/
def Reads {α : Type u} (shape : Shape) (make : shape.Value → α) (document : Json) (result : α) : Prop :=
  ∃ value, shape.decode document = .ok value ∧ make value = result

/-- A list is read item by item. -/
theorem Reads.list {α : Type u} {β : Type v} {item : Shape} {make : item.Value → β} {write : α → Json} {result : α → β}
    {xs : List α} (h : ∀ x ∈ xs, item.Reads make (write x) (result x)) :
    (Shape.list item).Reads (List.map make) (.arr (xs.map write)) (xs.map result) := by
  induction xs with
  | nil => exact ⟨[], rfl, rfl⟩
  | cons x rest ih =>
    rw [List.forall_mem_cons] at h
    obtain ⟨⟨value, hx, made⟩, h⟩ := h
    obtain ⟨values, hr, others⟩ := ih h
    refine ⟨value :: values, ?_, congrArg₂ List.cons made others⟩
    exact mapM_eq_ok_iff.2 (.cons hx (mapM_eq_ok_iff.1 hr))

/-- A list is read from the items of a list. -/
theorem decode_list_eq_ok_iff {item : Shape} {document : Json} {xs : List item.Value} :
    (list item).decode document = .ok xs ↔
      ∃ items, document = .arr items ∧ List.Forall₂ (fun j x => item.decode j = .ok x) items xs := by
  cases document with
  | arr items =>
    constructor
    · intro h
      exact ⟨items, rfl, mapM_eq_ok_iff.1 (show items.mapM (fun j => item.decode j) = .ok xs from h)⟩
    · rintro ⟨_, same, h⟩
      cases same
      exact mapM_eq_ok_iff.2 h
  | _ => exact ⟨nofun, nofun⟩

/-- A table of literals is read as it is written. -/
theorem decode_table_literal (entries : Table Json) :
    (table literal).decode (.obj entries.entries) = .ok entries := by
  have read : entries.entries.mapM (fun m => (m.1, ·) <$> literal.decode m.2) = .ok entries.entries :=
    mapM_eq_ok_iff.2 (List.forall₂_same.2 fun _ _ => rfl)
  rw [decode_obj_table, read]
  exact congrArg Except.ok entries.ofList_entries

end Shape

theorem Json.filter_optionalMember {name other : String} {j : Option Json} :
    (optionalMember name j).filter (fun m => m.1 == other) = if name = other then optionalMember name j else [] := by
  cases j <;> by_cases h : name = other <;> simp [optionalMember, h]

namespace Fields

variable {name title : String} {presence : Presence} {shape : Shape} {fields rest : Fields}
  {members : List (String × Json)} {x : shape.Value} {row : rest.Row}

/-- How the members of an object are read as one field. -/
def decodeField (name : String) (presence : Presence) (shape : Shape) (members : List (String × Json)) :
    Except Misfit shape.Value :=
  match members.filter fun m => m.1 == name, presence.inObject? with
  | [m], _ => shape.decode m.2
  | [], some neutral => shape.decode neutral
  | [], none => .error (.missingField name)
  | _ :: _ :: _, _ => .error (.duplicateField name)

/-- Fields are read one by one, each from all members. -/
theorem decodeMembers_cons_eq_ok_iff :
    (cons name presence shape rest).decodeMembers members = .ok (x, row) ↔
      decodeField name presence shape members = .ok x ∧ rest.decodeMembers members = .ok row := by
  have steps : (cons name presence shape rest).decodeMembers members =
      (decodeField name presence shape members >>= fun x => rest.decodeMembers members >>= fun row => .ok (x, row) :
        Except Misfit (shape.Value × rest.Row)) := by
    rw [decodeMembers, decodeField]
    generalize members.filter (fun m => m.1 == name) = found
    cases presence.inObject? <;> rcases found with _ | ⟨m, _ | ⟨_, _⟩⟩ <;> rfl
  constructor
  · intro h
    obtain ⟨y, hy, h⟩ := bind_eq_ok_iff.1 (steps.symm.trans h)
    obtain ⟨other, hrow, same⟩ := bind_eq_ok_iff.1 h
    cases same
    exact ⟨hy, hrow⟩
  · rintro ⟨hx, hrow⟩
    exact steps.trans (bind_eq_ok_iff.2 ⟨x, hx, bind_eq_ok_iff.2 ⟨row, hrow, rfl⟩⟩)

/-- A field is read from its member. -/
theorem decodeField_of_member {j : Json} (only : members.filter (fun m => m.1 == name) = [(name, j)]) :
    decodeField name presence shape members = shape.decode j := by
  rw [decodeField, only]

/-- A field that may be absent is read from its member or from its neutral document. -/
theorem decodeField_of_optionalMember {neutral : Json} {j : Option Json} (optional : presence.inObject? = some neutral)
    (only : members.filter (fun m => m.1 == name) = Json.optionalMember name j) :
    decodeField name presence shape members = shape.decode (j.getD neutral) := by
  rw [decodeField, only, optional]
  cases j <;> rfl

/-- A record is read from the members of an object. -/
theorem decode_obj_record {row : fields.Row} :
    (Shape.record title fields).decode (.obj members) = .ok row ↔ fields.decodeMembers members = .ok row := by
  unfold Shape.decode
  dsimp only
  cases fields.decodeMembers members with
  | ok other => exact Iff.rfl
  | error m => exact ⟨nofun, nofun⟩

end Fields

/-! ### Readable values -/

/-- A value can be read from some document. -/
def Shape.Readable (shape : Shape) (value : shape.Value) : Prop := ∃ document, shape.decode document = .ok value

/-- All values of a row can be read from some document. -/
def Fields.Readable : (fields : Fields) → fields.Row → Prop
  | .nil, _ => True
  | .cons _ _ shape rest, (x, row) => shape.Readable x ∧ rest.Readable row

namespace Fields

variable {name title : String} {presence : Presence} {shape : Shape} {fields rest : Fields}

private theorem readable_of_decodeItems {title : String} {size : Nat} : {fields : Fields} → {before : Nat} →
    {items : List Json} → {row : fields.Row} → fields.decodeItems title size before items = .ok row →
      fields.Readable row
  | .nil, _, _, _, _ => trivial
  | .cons _ _ _ rest, _, item :: _, (_, _), h => by
    obtain ⟨x, hx, h⟩ := bind_eq_ok_iff.1 h
    obtain ⟨row, hrow, h⟩ := bind_eq_ok_iff.1 h
    cases h
    exact ⟨⟨item, hx⟩, readable_of_decodeItems hrow⟩
  | .cons _ (.optional neutral) _ rest, _, [], (_, _), h => by
    obtain ⟨x, hx, h⟩ := bind_eq_ok_iff.1 h
    obtain ⟨row, hrow, h⟩ := bind_eq_ok_iff.1 h
    cases h
    exact ⟨⟨neutral, hx⟩, readable_of_decodeItems hrow⟩
  | .cons _ .required _ _, _, [], _, h => nomatch h
  | .cons _ (.omittable _) _ _, _, [], _, h => nomatch h

private theorem readable_of_decodeMembers : {fields : Fields} → {members : List (String × Json)} →
    {row : fields.Row} → fields.decodeMembers members = .ok row → fields.Readable row
  | .nil, _, _, _ => trivial
  | .cons name presence shape rest, members, (_, _), h => by
    obtain ⟨hx, hrow⟩ := decodeMembers_cons_eq_ok_iff.1 h
    refine ⟨?_, readable_of_decodeMembers hrow⟩
    unfold decodeField at hx
    split at hx
    · exact ⟨_, hx⟩
    · exact ⟨_, hx⟩
    · cases hx
    · cases hx

end Fields

namespace Shape

theorem Readable.record {title : String} {fields : Fields} {row : fields.Row}
    (h : (Shape.record title fields).Readable row) : fields.Readable row := by
  obtain ⟨document, h⟩ := h
  cases document with
  | arr items =>
    exact Fields.readable_of_decodeItems (show fields.decodeItems title fields.size 0 items = .ok row from h)
  | obj members => exact Fields.readable_of_decodeMembers (Fields.decode_obj_record.1 h)
  | _ => cases h

theorem Readable.of_mem {item : Shape} {xs : List item.Value} (h : (Shape.list item).Readable xs) :
    ∀ x ∈ xs, item.Readable x := by
  obtain ⟨document, h⟩ := h
  cases document with
  | arr items =>
    intro x hx
    have read : items.mapM (fun j => item.decode j) = .ok xs := h
    obtain ⟨j, -, hj⟩ := (mem_iff_of_mapM_eq_ok read x).1 hx
    exact ⟨j, hj⟩
  | _ => cases h

/-- Where null may stand, a value is read from a document that is not null. -/
theorem Readable.nullable {shape : Shape} {x : shape.Value} (h : (Shape.nullable shape).Readable (some x)) :
    ∃ document, document ≠ .null ∧ shape.decode document = .ok x := by
  obtain ⟨document, h⟩ := h
  refine ⟨document, ?_, ?_⟩
  · rintro rfl
    cases h
  · have read : (some <$> shape.decode document : Except Misfit (Option shape.Value)) = .ok (some x) := by
      cases document with
      | null => cases h
      | _ => exact h
    obtain ⟨y, hy, same⟩ := map_eq_ok_iff.1 read
    exact Option.some.inj same ▸ hy

end Shape

end AudioGraph
