import Mathlib.Data.List.Perm.Basic
import AudioGraph.Proofs.Shape.Spelling

/-!
# Layouts of a document

In which order an object has its members is a matter of layout, and so is in which order, and how often, a list has its
texts where the list stands for a set.  Documents that differ only in this are not always read as the same value: a
table keeps the order of its entries, and a list is read item by item.  They are read as values that are alike.

* (documents) `Shape.Relaid` says which documents differ only in their layout.
* (values) `Shape.Alike` says which values differ only in what layout leaves on them.
* (reading) Of two such documents one is read if the other is, and as a value that is alike
  (`Shape.readsAlike`).
-/

namespace AudioGraph

universe u v

/-! ### Documents and values -/

mutual

/-- Two documents of a shape differ at most in layout: in the order of the members of records and tables, where no
table repeats a name, and in the order and the number of the texts in lists of texts, which stand for sets. -/
def Shape.Relaid : Shape → Json → Json → Prop
  | .list item, j, j' =>
    match j, j' with
    | .arr items, .arr others =>
      List.Forall₂ (fun j j' => item.Relaid j j') items others ∨ item = .text ∧ ∀ j, j ∈ items ↔ j ∈ others
    | _, _ => j = j'
  | .table item, j, j' =>
    match j, j' with
    | .obj members, .obj others =>
      (Entries.names members).Nodup ∧ ∃ moved, members.Perm moved ∧
        List.Forall₂ (fun m m' => m.1 = m'.1 ∧ item.Relaid m.2 m'.2) moved others
    | _, _ => j = j'
  | .record _ fields, j, j' =>
    match j, j' with
    | .arr items, .arr others => fields.ItemsRelaid items others
    | .obj members, .obj others =>
      ∃ moved, members.Perm moved ∧
        List.Forall₂ (fun m m' => m.1 = m'.1 ∧ fields.MemberRelaid m.1 m.2 m'.2) moved others
    | _, _ => j = j'
  | _, j, j' => j = j'

/-- The items of a list of fields differ at most in layout. -/
def Fields.ItemsRelaid : Fields → List Json → List Json → Prop
  | .nil, items, others => items = others
  | .cons _ _ shape rest, items, others =>
    match items, others with
    | j :: items, j' :: others => shape.Relaid j j' ∧ rest.ItemsRelaid items others
    | _, _ => items = others

/-- What stands under a name differs at most in layout, for each field of this name. -/
def Fields.MemberRelaid : Fields → String → Json → Json → Prop
  | .nil, _, _, _ => True
  | .cons name _ shape rest, member, j, j' => (member = name → shape.Relaid j j') ∧ rest.MemberRelaid member j j'

end

mutual

/-- Two values of a shape are the same up to the order of tables, and up to the order and the number of the texts in
lists of texts. -/
def Shape.Alike : (shape : Shape) → shape.Value → shape.Value → Prop
  | .list item, (xs : List item.Value), (ys : List item.Value) =>
    List.Forall₂ (fun x y => item.Alike x y) xs ys ∨ item = .text ∧ ∀ x, x ∈ xs ↔ x ∈ ys
  | .table item, (s : Table item.Value), (t : Table item.Value) =>
    ∃ moved, s.entries.Perm moved ∧ List.Forall₂ (fun e e' => e.1 = e'.1 ∧ item.Alike e.2 e'.2) moved t.entries
  | .record _ fields, row, row' => fields.Alike row row'
  | .text, x, y | .flag, x, y | .real, x, y | .literal, x, y | .choice _, x, y | .nullable _, x, y
  | .tuple _ _, x, y => x = y

/-- The values of all fields are alike. -/
def Fields.Alike : (fields : Fields) → fields.Row → fields.Row → Prop
  | .nil, _, _ => True
  | .cons _ _ shape rest, (x, row), (y, row') => shape.Alike x y ∧ rest.Alike row row'

end

mutual

theorem Shape.Alike.refl : (shape : Shape) → (x : shape.Value) → shape.Alike x x
  | .list item, _ => .inl (List.forall₂_same.2 fun x _ => Shape.Alike.refl item x)
  | .table item, t => ⟨t.entries, .refl _, List.forall₂_same.2 fun e _ => ⟨rfl, Shape.Alike.refl item e.2⟩⟩
  | .record _ fields, row => Fields.Alike.refl fields row
  | .text, _ | .flag, _ | .real, _ | .literal, _ | .choice _, _ | .nullable _, _ | .tuple _ _, _ => rfl

theorem Fields.Alike.refl : (fields : Fields) → (row : fields.Row) → fields.Alike row row
  | .nil, _ => trivial
  | .cons _ _ shape rest, (x, row) => ⟨Shape.Alike.refl shape x, Fields.Alike.refl rest row⟩

end

/-! ### Reading -/

/-- What is read item by item is alike, if it is so for each item. -/
private theorem forall₂_of_step {α : Type u} {β : Type v} {moved : α → α → Prop} {read : α → β → Prop}
    {alike : β → β → Prop} (step : ∀ a a' b, moved a a' → read a b → ∃ b', read a' b' ∧ alike b b') {as as' : List α}
    {bs : List β} (same : List.Forall₂ moved as as') (h : List.Forall₂ read as bs) :
    ∃ bs', List.Forall₂ read as' bs' ∧ List.Forall₂ alike bs bs' := by
  induction same generalizing bs with
  | nil =>
    cases h
    exact ⟨[], .nil, .nil⟩
  | cons hm _ ih =>
    obtain ⟨b, rest, hb, hrest, rfl⟩ := List.forall₂_cons_left_iff.1 h
    obtain ⟨b', hb', alike⟩ := step _ _ b hm hb
    obtain ⟨rest', hrest', others⟩ := ih hrest
    exact ⟨b' :: rest', .cons hb' hrest', .cons alike others⟩

private theorem names_eq_of_forall₂ {α : Type u} {β : Type v} {R : String × α → String × β → Prop}
    (named : ∀ e e', R e e' → e.1 = e'.1) {entries : List (String × α)} {others : List (String × β)}
    (h : List.Forall₂ R entries others) : Entries.names entries = Entries.names others := by
  induction h with
  | nil => rfl
  | cons hr _ ih => exact congrArg₂ List.cons (named _ _ hr) ih

/-- What is read from the same items, in whichever order and however often they stand there, is the same set. -/
private theorem exists_mapM_of_mem_iff {α ε β : Type u} {f : α → Except ε β} {as as' : List α} {bs : List β}
    (same : ∀ a, a ∈ as ↔ a ∈ as') (h : as.mapM f = .ok bs) :
    ∃ bs', as'.mapM f = .ok bs' ∧ ∀ b, b ∈ bs ↔ b ∈ bs' := by
  have each := exists_mapM_eq_ok_iff.1 ⟨bs, h⟩
  obtain ⟨bs', h'⟩ := exists_mapM_eq_ok_iff.2 fun a ha => each a ((same a).2 ha)
  refine ⟨bs', h', fun b => ?_⟩
  rw [mem_iff_of_mapM_eq_ok h, mem_iff_of_mapM_eq_ok h']
  simp only [same]

namespace Shape

/-- A table is read from the members of an object. -/
theorem decode_table_eq_ok_iff {item : Shape} {document : Json} {t : Table item.Value} :
    (table item).decode document = .ok t ↔
      ∃ members entries, document = .obj members ∧
        List.Forall₂ (fun m e => m.1 = e.1 ∧ item.decode m.2 = .ok e.2) members entries ∧
        Table.ofList entries = t := by
  have entry (m : String × Json) (e : String × item.Value) :
      ((m.1, ·) <$> item.decode m.2 : Except Misfit (String × item.Value)) = .ok e ↔
        m.1 = e.1 ∧ item.decode m.2 = .ok e.2 := by
    rw [map_eq_ok_iff]
    constructor
    · rintro ⟨x, hx, rfl⟩
      exact ⟨rfl, hx⟩
    · rintro ⟨same, hx⟩
      exact ⟨e.2, hx, by rw [same]⟩
  cases document with
  | obj members =>
    have steps : (Table.ofList <$> members.mapM fun m => (m.1, ·) <$> item.decode m.2 :
          Except Misfit (Table item.Value)) = .ok t ↔
        ∃ entries, List.Forall₂ (fun m e => m.1 = e.1 ∧ item.decode m.2 = .ok e.2) members entries ∧
          Table.ofList entries = t := by
      rw [map_eq_ok_iff]
      simp only [mapM_eq_ok_iff, entry]
    refine Iff.trans steps ⟨?_, ?_⟩
    · rintro ⟨entries, h, made⟩
      exact ⟨members, entries, rfl, h, made⟩
    · rintro ⟨_, entries, same, h, made⟩
      cases same
      exact ⟨entries, h, made⟩
  | _ => exact ⟨nofun, nofun⟩

/-- Of two documents that differ only in layout the second is read if the first is, and as a value that is alike. -/
def ReadsAlike (shape : Shape) : Prop :=
  ∀ j j' x, shape.Relaid j j' → shape.decode j = .ok x → ∃ x', shape.decode j' = .ok x' ∧ shape.Alike x x'

end Shape

/-- What `Shape.ReadsAlike` says of documents, for the lists and the objects that fields are read from. -/
structure Fields.ReadAlike (fields : Fields) : Prop where
  items : ∀ title size before items others row, fields.ItemsRelaid items others →
    fields.decodeItems title size before items = .ok row →
      ∃ row', fields.decodeItems title size before others = .ok row' ∧ fields.Alike row row'
  members : ∀ members others row,
    List.Forall₂ (fun m m' => m.1 = m'.1 ∧ fields.MemberRelaid m.1 m.2 m'.2) members others →
    fields.decodeMembers members = .ok row →
      ∃ row', fields.decodeMembers others = .ok row' ∧ fields.Alike row row'

namespace Shape

variable {item : Shape} {fields : Fields} {title : String}

theorem readsAlike_of_eq {shape : Shape} (plain : ∀ j j', shape.Relaid j j' → j = j') : shape.ReadsAlike := by
  intro j j' x relaid read
  obtain rfl := plain j j' relaid
  exact ⟨x, read, .refl shape x⟩

theorem readsAlike_list (h : item.ReadsAlike) : (list item).ReadsAlike := by
  intro j j' xs relaid read
  obtain ⟨items, rfl, each⟩ := decode_list_eq_ok_iff.1 read
  cases j' with
  | arr others =>
    rcases relaid with itemwise | ⟨text, same⟩
    · obtain ⟨ys, hys, alike⟩ := forall₂_of_step h itemwise each
      exact ⟨ys, decode_list_eq_ok_iff.2 ⟨others, rfl, hys⟩, .inl alike⟩
    · obtain ⟨ys, hys, alike⟩ := exists_mapM_of_mem_iff same (mapM_eq_ok_iff.2 each)
      exact ⟨ys, hys, .inr ⟨text, alike⟩⟩
  | _ => cases relaid

theorem readsAlike_table (h : item.ReadsAlike) : (table item).ReadsAlike := by
  intro j j' t relaid read
  obtain ⟨members, entries, rfl, each, rfl⟩ := decode_table_eq_ok_iff.1 read
  cases j' with
  | obj others =>
    obtain ⟨distinct, moved, reordered, memberwise⟩ := relaid
    have step (m m' : String × Json) (e : String × item.Value) (hm : m.1 = m'.1 ∧ item.Relaid m.2 m'.2)
        (he : m.1 = e.1 ∧ item.decode m.2 = .ok e.2) : ∃ e' : String × item.Value,
          (m'.1 = e'.1 ∧ item.decode m'.2 = .ok e'.2) ∧ e.1 = e'.1 ∧ item.Alike e.2 e'.2 := by
      obtain ⟨x', hx', alike⟩ := h _ _ _ hm.2 he.2
      exact ⟨(m'.1, x'), ⟨rfl, hx'⟩, he.1.symm.trans hm.1, alike⟩
    -- the entries are moved like the members, and then changed like them
    obtain ⟨movedEntries, movedRead, movedPerm⟩ := List.perm_comp_forall₂ reordered.symm each
    obtain ⟨otherEntries, othersRead, alike⟩ := forall₂_of_step step memberwise movedRead
    have entriesDistinct : (Entries.names entries).Nodup := names_eq_of_forall₂ (fun _ _ h => h.1) each ▸ distinct
    have sameNames : (Entries.names entries).Perm (Entries.names otherEntries) := by
      rw [← names_eq_of_forall₂ (fun _ _ h => h.1) alike]
      exact movedPerm.symm.map _
    refine ⟨.ofList otherEntries, decode_table_eq_ok_iff.2 ⟨others, otherEntries, rfl, othersRead, rfl⟩, ?_⟩
    refine ⟨movedEntries, ?_, ?_⟩
    · rw [Table.entries_ofList entriesDistinct]
      exact movedPerm.symm
    · rw [Table.entries_ofList (sameNames.nodup_iff.1 entriesDistinct)]
      exact alike
  | _ => cases relaid

theorem readsAlike_record (h : fields.ReadAlike) : (record title fields).ReadsAlike := by
  intro j j' row relaid read
  cases j with
  | arr items =>
    cases j' with
    | arr others => exact h.items title fields.size 0 items others row relaid read
    | _ => cases relaid
  | obj members =>
    cases j' with
    | obj others =>
      obtain ⟨moved, reordered, memberwise⟩ := relaid
      have readMoved : fields.decodeMembers moved = .ok row :=
        (Fields.decodeMembers_congr (Fields.documents?_of_perm reordered) row).1 (Fields.decode_obj_record.1 read)
      obtain ⟨row', hrow', alike⟩ := h.members moved others row memberwise readMoved
      exact ⟨row', Fields.decode_obj_record.2 hrow', alike⟩
    | _ => cases relaid
  | _ => cases read

end Shape

namespace Fields

variable {name : String} {presence : Presence} {shape : Shape} {rest : Fields} {members others : List (String × Json)}

/-- A field is read from the corresponding documents of objects that correspond member by member. -/
private theorem document?_of_forall₂ {R : String → Json → Json → Prop} {j : Json}
    (same : List.Forall₂ (fun m m' => m.1 = m'.1 ∧ R m.1 m.2 m'.2) members others)
    (h : document? name presence members = some j) :
    ∃ j', document? name presence others = some j' ∧ (R name j j' ∨ j = j') := by
  have found : List.Forall₂ (fun m m' => m.1 = m'.1 ∧ R m.1 m.2 m'.2) (members.filter fun m => m.1 == name)
      (others.filter fun m => m.1 == name) :=
    List.rel_filter (fun m m' hm => by simp only [hm.1]) same
  have named : ∀ m ∈ members.filter fun m => m.1 == name, m.1 = name := by
    intro m hm
    simpa using (List.mem_filter.1 hm).2
  unfold document? at h ⊢
  generalize members.filter (fun m => m.1 == name) = ms at found named h
  generalize others.filter (fun m => m.1 == name) = ms' at found ⊢
  cases found with
  | nil => exact ⟨j, h, .inr rfl⟩
  | @cons m m' _ _ hm more =>
    cases more with
    | nil =>
      obtain rfl := Option.some.inj h
      exact ⟨m'.2, rfl, .inl (named m List.mem_cons_self ▸ hm.2)⟩
    | cons => cases h

theorem readAlike_nil : nil.ReadAlike where
  items _ _ _ items others _ same read := by
    obtain rfl : items = others := same
    exact ⟨(), read, trivial⟩
  members _ _ _ _ _ := ⟨(), rfl, trivial⟩

theorem readAlike_cons (h : shape.ReadsAlike) (hs : rest.ReadAlike) :
    (cons name presence shape rest).ReadAlike where
  items := by
    intro title size before items others row relaid read
    cases items with
    | nil =>
      obtain rfl : [] = others := relaid
      exact ⟨row, read, .refl _ row⟩
    | cons j items =>
      cases others with
      | nil => cases relaid
      | cons j' others =>
        obtain ⟨x, row⟩ := row
        obtain ⟨hx, hrow⟩ := decodeItems_cons_eq_ok_iff.1 read
        obtain ⟨x', hx', alike⟩ := h j j' x relaid.1 hx
        obtain ⟨row', hrow', rows⟩ := hs.items title size (before + 1) items others row relaid.2 hrow
        exact ⟨(x', row'), decodeItems_cons_eq_ok_iff.2 ⟨hx', hrow'⟩, alike, rows⟩
  members := by
    intro members others row memberwise read
    obtain ⟨x, row⟩ := row
    obtain ⟨hx, hrow⟩ := decodeMembers_cons_eq_ok_iff.1 read
    obtain ⟨j, there, hj⟩ := decodeField_eq_ok_iff.1 hx
    have first : List.Forall₂ (fun m m' => m.1 = m'.1 ∧ (m.1 = name → shape.Relaid m.2 m'.2)) members others :=
      memberwise.imp fun _ _ hm => ⟨hm.1, hm.2.1⟩
    have later : List.Forall₂ (fun m m' => m.1 = m'.1 ∧ rest.MemberRelaid m.1 m.2 m'.2) members others :=
      memberwise.imp fun _ _ hm => ⟨hm.1, hm.2.2⟩
    obtain ⟨row', hrow', rows⟩ := hs.members members others row later hrow
    obtain ⟨j', there', relaid⟩ :=
      document?_of_forall₂ (R := fun member j j' => member = name → shape.Relaid j j') first there
    have field : ∃ x', shape.decode j' = .ok x' ∧ shape.Alike x x' := by
      rcases relaid with relaid | rfl
      · exact h j j' x (relaid rfl) hj
      · exact ⟨x, hj, .refl shape x⟩
    obtain ⟨x', hx', alike⟩ := field
    exact ⟨(x', row'), decodeMembers_cons_eq_ok_iff.2 ⟨decodeField_eq_ok_iff.2 ⟨j', there', hx'⟩, hrow'⟩, alike, rows⟩

end Fields

theorem Fields.memberRelaid_of_notMem {j j' : Json} {name : String} : {fields : Fields} → name ∉ fields.names →
    fields.MemberRelaid name j j'
  | .nil, _ => trivial
  | .cons _ _ _ _, unknown =>
    ⟨fun same => absurd (same ▸ List.mem_cons_self) unknown,
      memberRelaid_of_notMem fun later => unknown (List.mem_cons_of_mem _ later)⟩

/-- What stands under the name of a field differs only in layout if it does so as the document of this field. -/
theorem Fields.memberRelaid_of_declares {fields : Fields} {name : String} {presence : Presence} {shape : Shape}
    {j j' : Json} (declares : fields.Declares name presence shape) (relaid : shape.Relaid j j') :
    fields.MemberRelaid name j j' := by
  induction declares with
  | @here name presence shape rest unknown => exact ⟨fun _ => relaid, memberRelaid_of_notMem unknown⟩
  | there ne _ ih => exact ⟨fun same => absurd same.symm ne, ih relaid⟩

mutual

theorem Shape.readsAlike : (shape : Shape) → shape.ReadsAlike
  | .list item => Shape.readsAlike_list (Shape.readsAlike item)
  | .table item => Shape.readsAlike_table (Shape.readsAlike item)
  | .record _ fields => Shape.readsAlike_record (Fields.readAlike fields)
  | .text | .flag | .real | .literal | .choice _ | .nullable _ | .tuple _ _ => Shape.readsAlike_of_eq fun _ _ => id

theorem Fields.readAlike : (fields : Fields) → fields.ReadAlike
  | .nil => Fields.readAlike_nil
  | .cons _ _ shape rest => Fields.readAlike_cons (Shape.readsAlike shape) (Fields.readAlike rest)

end

end AudioGraph
