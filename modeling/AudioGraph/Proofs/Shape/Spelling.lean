import AudioGraph.Proofs.Shape.Reading

/-!
# Spellings of a document

One value can be spelled in several documents.  In a record the order of the members does not count, members with other
names are passed over, an optional field may be left out or written as its neutral document, and the whole may be a list
of its fields instead of an object.

* (lists) An object is read as the list of the documents that its fields are read from (`Fields.decodeMembers_eq_ok_iff`).
  All that is said here about objects is said of these documents (`Fields.documents?`).
* (steps) A step from a spelling to another (`Shape.Respelling`) does not change what is read
  (`Shape.decode_of_respelling`).
* (required fields) An object that is read has all fields that may not be absent (`Fields.mem_names_of_decodeMembers`).
-/

namespace AudioGraph

namespace Fields

variable {name title : String} {presence : Presence} {shape : Shape} {fields rest : Fields} {size before : Nat}
  {members others : List (String × Json)}

/-! ### Objects as lists -/

/-- The document that a field is read from: that of its only member, or the neutral one if it has no member. -/
def document? (name : String) (presence : Presence) (members : List (String × Json)) : Option Json :=
  match members.filter fun m => m.1 == name with
  | [] => presence.inObject?
  | [m] => some m.2
  | _ :: _ :: _ => none

/-- The documents that all fields are read from, in the order of the fields. -/
def documents? : Fields → List (String × Json) → Option (List Json)
  | .nil, _ => some []
  | .cons name presence _ rest, members =>
    (document? name presence members).bind fun j => (rest.documents? members).map (j :: ·)

theorem decodeField_eq_ok_iff {x : shape.Value} :
    decodeField name presence shape members = .ok x ↔
      ∃ j, document? name presence members = some j ∧ shape.decode j = .ok x := by
  unfold decodeField document?
  generalize members.filter (fun m => m.1 == name) = found
  rcases found with _ | ⟨m, _ | ⟨_, _⟩⟩
  · cases presence.inObject? <;> simp
  · simp
  · simp

/-- A field is read from what stands under its name, or else from its neutral document. -/
theorem document?_cases {j : Json} (h : document? name presence members = some j) :
    Entries.get? name members = some j ∨ Entries.get? name members = none ∧ presence.inObject? = some j := by
  rw [Entries.get?_eq_find?, ← List.head?_filter]
  unfold document? at h
  split at h
  · next none => exact .inr ⟨by rw [none]; rfl, h⟩
  · next m one => exact .inl (by rw [one]; exact h)
  · cases h

theorem decodeItems_cons_eq_ok_iff {item : Json} {items : List Json} {x : shape.Value} {row : rest.Row} :
    (cons name presence shape rest).decodeItems title size before (item :: items) = .ok (x, row) ↔
      shape.decode item = .ok x ∧ rest.decodeItems title size (before + 1) items = .ok row := by
  have steps : (cons name presence shape rest).decodeItems title size before (item :: items) =
      (shape.decode item >>= fun x => rest.decodeItems title size (before + 1) items >>= fun row => .ok (x, row) :
        Except Misfit (shape.Value × rest.Row)) := by
    rw [decodeItems]
    rfl
  constructor
  · intro h
    obtain ⟨y, hy, h⟩ := bind_eq_ok_iff.1 (steps.symm.trans h)
    obtain ⟨other, hrow, same⟩ := bind_eq_ok_iff.1 h
    cases same
    exact ⟨hy, hrow⟩
  · rintro ⟨hx, hrow⟩
    exact steps.trans (bind_eq_ok_iff.2 ⟨x, hx, bind_eq_ok_iff.2 ⟨row, hrow, rfl⟩⟩)

/-- The fields of an object are read as the items of the list of their documents. -/
theorem decodeMembers_eq_ok_iff (title : String) (size : Nat) : {fields : Fields} → (before : Nat) →
    {row : fields.Row} → (fields.decodeMembers members = .ok row ↔
      ∃ items, fields.documents? members = some items ∧ fields.decodeItems title size before items = .ok row)
  | .nil, before, () => by
    constructor
    · intro _
      exact ⟨[], rfl, rfl⟩
    · intro _
      rfl
  | .cons name presence shape rest, before, (x, row) => by
    rw [decodeMembers_cons_eq_ok_iff, decodeField_eq_ok_iff, decodeMembers_eq_ok_iff title size (before + 1)]
    constructor
    · rintro ⟨⟨j, hj, hx⟩, js, hjs, hrow⟩
      refine ⟨j :: js, ?_, decodeItems_cons_eq_ok_iff.2 ⟨hx, hrow⟩⟩
      rw [documents?, hj, Option.bind_some, hjs, Option.map_some]
    · rintro ⟨items, hitems, hrow⟩
      rw [documents?] at hitems
      obtain ⟨j, hj, hitems⟩ := Option.bind_eq_some_iff.1 hitems
      obtain ⟨js, hjs, rfl⟩ := Option.map_eq_some_iff.1 hitems
      obtain ⟨hx, hrow⟩ := decodeItems_cons_eq_ok_iff.1 hrow
      exact ⟨⟨j, hj, hx⟩, js, hjs, hrow⟩

/-- Fields are read alike from objects that have the same documents for them. -/
theorem decodeMembers_congr (same : fields.documents? members = fields.documents? others) (row : fields.Row) :
    fields.decodeMembers members = .ok row ↔ fields.decodeMembers others = .ok row := by
  rw [decodeMembers_eq_ok_iff "" 0 0, decodeMembers_eq_ok_iff "" 0 0, same]

/-! ### Steps of an object -/

private theorem filter_eq_nil_of_notMem (absent : name ∉ Entries.names members) :
    members.filter (fun m => m.1 == name) = [] := by
  apply List.filter_eq_nil_iff.2
  intro m hm same
  exact absent (List.mem_map.2 ⟨m, hm, beq_iff_eq.1 same⟩)

theorem document?_of_perm (same : members.Perm others) (name : String) (presence : Presence) :
    document? name presence members = document? name presence others := by
  have h := same.filter fun m => m.1 == name
  unfold document?
  generalize members.filter (fun m => m.1 == name) = found at h ⊢
  generalize others.filter (fun m => m.1 == name) = other at h ⊢
  -- two lists in another order are equal but for those of two members and more, which are no document
  rcases found with _ | ⟨m, _ | ⟨m', rest⟩⟩
  · rw [h.nil_eq]
  · rw [List.singleton_perm.1 h]
  · have length := h.length_eq
    rcases other with _ | ⟨_, _ | ⟨_, _⟩⟩
    · simp at length
    · simp at length
    · rfl

theorem document?_cons_of_ne {other : String} (h : other ≠ name) (j : Json) :
    document? name presence ((other, j) :: members) = document? name presence members := by
  rw [document?, document?, List.filter_cons_of_neg (by simp [h])]

/-- Fields are read from the same documents if each of them is. -/
theorem documents?_congr : {fields : Fields} →
    (∀ name ∈ fields.names, ∀ presence, document? name presence members = document? name presence others) →
      fields.documents? members = fields.documents? others
  | .nil, _ => rfl
  | .cons name presence shape rest, h => by
    have head := h name List.mem_cons_self presence
    have tail : rest.documents? members = rest.documents? others :=
      documents?_congr fun name hn => h name (List.mem_cons_of_mem _ hn)
    rw [documents?, documents?, head, tail]

/-- Among some fields there is one of a name, and only one. -/
inductive Declares : Fields → String → Presence → Shape → Prop where
  | here {name : String} {presence : Presence} {shape : Shape} {rest : Fields} :
      name ∉ rest.names → Declares (.cons name presence shape rest) name presence shape
  | there {first name : String} {firstPresence presence : Presence} {firstShape shape : Shape} {rest : Fields} :
      first ≠ name → Declares rest name presence shape →
        Declares (.cons first firstPresence firstShape rest) name presence shape

theorem documents?_of_perm (same : members.Perm others) : fields.documents? members = fields.documents? others := by
  apply documents?_congr
  intro name _ presence
  exact document?_of_perm same name presence

theorem documents?_cons_of_notMem (unknown : name ∉ fields.names) (j : Json) :
    fields.documents? ((name, j) :: members) = fields.documents? members := by
  apply documents?_congr
  intro other hm presence
  apply document?_cons_of_ne
  rintro rfl
  exact unknown hm

/-- An optional field may be left out where it holds its neutral document. -/
theorem documents?_cons_of_neutral {neutral : Json} (declares : fields.Declares name presence shape)
    (optional : presence.inObject? = some neutral) (absent : name ∉ Entries.names members) :
    fields.documents? ((name, neutral) :: members) = fields.documents? members := by
  induction declares with
  | @here name presence shape rest unknown =>
    have head : document? name presence ((name, neutral) :: members) = document? name presence members := by
      rw [document?, document?, List.filter_cons_of_pos (by simp), filter_eq_nil_of_notMem absent]
      exact optional.symm
    rw [documents?, documents?, head, documents?_cons_of_notMem unknown]
  | there ne _ ih => rw [documents?, documents?, document?_cons_of_ne ne.symm, ih optional absent]

private theorem decodeField_of_field {j j' : Json} (alike : ∀ x, shape.decode j = .ok x ↔ shape.decode j' = .ok x)
    (before after : List (String × Json)) (x : shape.Value) :
    decodeField name presence shape (before ++ (name, j) :: after) = .ok x ↔
      decodeField name presence shape (before ++ (name, j') :: after) = .ok x := by
  have found (j : Json) : (before ++ (name, j) :: after).filter (fun m => m.1 == name) =
      before.filter (fun m => m.1 == name) ++ (name, j) :: after.filter fun m => m.1 == name := by
    simp
  rw [decodeField, decodeField, found, found]
  generalize before.filter (fun m => m.1 == name) = earlier
  generalize after.filter (fun m => m.1 == name) = later
  -- beside another member of the name neither of the two is read
  rcases earlier with _ | ⟨_, _ | ⟨_, _⟩⟩
  · rcases later with _ | ⟨_, _⟩
    · exact alike x
    · exact Iff.rfl
  · exact Iff.rfl
  · exact Iff.rfl

/-- A field may be spelled in another way. -/
theorem decodeMembers_of_field {j j' : Json} (declares : fields.Declares name presence shape)
    (alike : ∀ x, shape.decode j = .ok x ↔ shape.decode j' = .ok x) (before after : List (String × Json))
    (row : fields.Row) :
    fields.decodeMembers (before ++ (name, j) :: after) = .ok row ↔
      fields.decodeMembers (before ++ (name, j') :: after) = .ok row := by
  have others {name other : String} (h : name ≠ other) (presence : Presence) :
      document? other presence (before ++ (name, j) :: after) =
        document? other presence (before ++ (name, j') :: after) := by
    simp [document?, h]
  induction declares with
  | @here name presence shape rest unknown =>
    obtain ⟨x, row⟩ := row
    rw [decodeMembers_cons_eq_ok_iff, decodeMembers_cons_eq_ok_iff]
    have tail : rest.documents? (before ++ (name, j) :: after) = rest.documents? (before ++ (name, j') :: after) := by
      apply documents?_congr
      intro other hm presence
      apply others
      rintro rfl
      exact unknown hm
    refine and_congr (decodeField_of_field alike before after x) ?_
    exact decodeMembers_congr tail row
  | there ne _ ih =>
    obtain ⟨x, row⟩ := row
    rw [decodeMembers_cons_eq_ok_iff, decodeMembers_cons_eq_ok_iff]
    refine and_congr ?_ (ih alike row)
    rw [decodeField_eq_ok_iff, decodeField_eq_ok_iff, others ne.symm]

/-! ### Required fields -/

/-- The names of the fields that may not be absent. -/
def requiredNames : Fields → List String
  | .nil => []
  | .cons name presence _ rest =>
    if presence.inObject?.isNone then name :: rest.requiredNames else rest.requiredNames

theorem mem_names_of_decodeField {x : shape.Value} (h : decodeField name presence shape members = .ok x)
    (required : presence.inObject?.isNone) : name ∈ Entries.names members := by
  by_contra absent
  rw [decodeField, filter_eq_nil_of_notMem absent, Option.isNone_iff_eq_none.1 required] at h
  cases h

/-- An object from which fields are read has all required ones among its members. -/
theorem mem_names_of_decodeMembers : {fields : Fields} → {row : fields.Row} → fields.decodeMembers members = .ok row →
    ∀ name ∈ fields.requiredNames, name ∈ Entries.names members
  | .nil, _, _ => by
    intro name hn
    cases hn
  | .cons first presence shape rest, (x, row), h => by
    obtain ⟨hx, hrow⟩ := decodeMembers_cons_eq_ok_iff.1 h
    have later := mem_names_of_decodeMembers hrow
    intro name hn
    rw [requiredNames] at hn
    split at hn
    · next required =>
      rcases List.mem_cons.1 hn with rfl | hn
      · exact mem_names_of_decodeField hx required
      · exact later name hn
    · exact later name hn

end Fields

namespace Shape

/-- A step from a document to another in which a shape reads the same: in an object the members in another order, a
member of an unknown name more, or an optional field more that holds its neutral document; the list of the documents
of all fields for the object; and such a step in a field of an object or in an item of a list. -/
inductive Respelling : Shape → Json → Json → Prop where
  | order {title : String} {fields : Fields} {members others : List (String × Json)} :
      members.Perm others → Respelling (.record title fields) (.obj members) (.obj others)
  | unknown {title name : String} {fields : Fields} (members : List (String × Json)) (j : Json) :
      name ∉ fields.names → Respelling (.record title fields) (.obj members) (.obj ((name, j) :: members))
  | neutral {title name : String} {fields : Fields} {presence : Presence} {shape : Shape} {neutral : Json}
      {members : List (String × Json)} :
      fields.Declares name presence shape → presence.inObject? = some neutral → name ∉ Entries.names members →
        Respelling (.record title fields) (.obj members) (.obj ((name, neutral) :: members))
  | listed {title : String} {fields : Fields} {members : List (String × Json)} {items : List Json} :
      fields.documents? members = some items → Respelling (.record title fields) (.obj members) (.arr items)
  | field {title name : String} {fields : Fields} {presence : Presence} {shape : Shape} {j j' : Json}
      (before after : List (String × Json)) :
      fields.Declares name presence shape → Respelling shape j j' →
        Respelling (.record title fields) (.obj (before ++ (name, j) :: after)) (.obj (before ++ (name, j') :: after))
  | item {shape : Shape} {j j' : Json} (before after : List Json) :
      Respelling shape j j' → Respelling (.list shape) (.arr (before ++ j :: after)) (.arr (before ++ j' :: after))

variable {shape : Shape} {j j' : Json}

private theorem decode_obj_congr {title : String} {fields : Fields} {members others : List (String × Json)}
    (h : ∀ row, fields.decodeMembers members = .ok row ↔ fields.decodeMembers others = .ok row)
    (x : (record title fields).Value) :
    (record title fields).decode (.obj members) = .ok x ↔ (record title fields).decode (.obj others) = .ok x :=
  Fields.decode_obj_record.trans ((h x).trans Fields.decode_obj_record.symm)

private theorem decode_obj_iff_of_listed {title : String} {fields : Fields} {members : List (String × Json)}
    {items : List Json} (listed : fields.documents? members = some items) (x : (record title fields).Value) :
    (record title fields).decode (.obj members) = .ok x ↔ (record title fields).decode (.arr items) = .ok x := by
  refine Fields.decode_obj_record.trans ((Fields.decodeMembers_eq_ok_iff title fields.size 0).trans ?_)
  rw [listed]
  constructor
  · rintro ⟨_, same, h⟩
    cases same
    exact h
  · intro h
    exact ⟨items, rfl, h⟩

/-- In a list, an item may be spelled in another way. -/
private theorem decode_list_of_item (alike : ∀ x, shape.decode j = .ok x ↔ shape.decode j' = .ok x)
    (before after : List Json) (xs : List shape.Value) :
    (list shape).decode (.arr (before ++ j :: after)) = .ok xs ↔
      (list shape).decode (.arr (before ++ j' :: after)) = .ok xs := by
  show (before ++ j :: after).mapM (fun j => shape.decode j) = .ok xs ↔
    (before ++ j' :: after).mapM (fun j => shape.decode j) = .ok xs
  rw [mapM_eq_ok_iff, mapM_eq_ok_iff]
  induction before generalizing xs with
  | nil => cases xs <;> simp [alike]
  | cons _ before ih => cases xs <;> simp [ih]

/-- A step from a spelling to another does not change what is read. -/
theorem decode_of_respelling (step : shape.Respelling j j') :
    ∀ x, shape.decode j = .ok x ↔ shape.decode j' = .ok x := by
  induction step with
  | order same => exact decode_obj_congr (Fields.decodeMembers_congr (Fields.documents?_of_perm same))
  | unknown members j unknown =>
    exact decode_obj_congr (Fields.decodeMembers_congr (Fields.documents?_cons_of_notMem unknown j).symm)
  | neutral declares optional absent =>
    exact decode_obj_congr
      (Fields.decodeMembers_congr (Fields.documents?_cons_of_neutral declares optional absent).symm)
  | listed listed => exact decode_obj_iff_of_listed listed
  | field before after declares _ ih => exact decode_obj_congr (Fields.decodeMembers_of_field declares ih before after)
  | item before after _ ih => exact decode_list_of_item ih before after

end Shape

end AudioGraph
