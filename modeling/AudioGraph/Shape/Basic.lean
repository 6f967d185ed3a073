import AudioGraph.Json.Fault
import AudioGraph.Collection.Entries

/-!
# Shapes of documents

A `Shape` says what a document must look like to be read as a value, and `Shape.Value` is the type of the values read.
A record is an object with named fields, or the list of its fields in their order; a field that may be absent is read
as its neutral document where it is absent.

`Shape.decode` reads a document.  The fields of an object are read in their own order, each from the one member of its
name, and the order of the members counts for nothing.  Where a field does not fit, the misfit reported is the first
one in the order of the members; that a field is missing is reported only if all members fit.
-/

namespace AudioGraph

/-- Whether a field may be absent, and the document it is read as then. -/
inductive Presence where
  | required
  /-- May be absent from an object, and from the end of a list. -/
  | optional (neutral : Json)
  /-- May be absent from an object, but not from a list. -/
  | omittable (neutral : Json)

namespace Presence

/-- What an absent member of an object is read as. -/
def inObject? : Presence → Option Json
  | required => none
  | optional neutral | omittable neutral => some neutral

/-- What an absent item of a list is read as. -/
def inList? : Presence → Option Json
  | required | omittable _ => none
  | optional neutral => some neutral

end Presence

mutual

/-- What a document must look like. -/
inductive Shape where
  | text
  | flag
  | real
  /-- Any document. -/
  | literal
  /-- One of several names. -/
  | choice (names : List String)
  /-- Null, or a document of the given shape. -/
  | nullable (shape : Shape)
  | list (item : Shape)
  /-- An object with any names. -/
  | table (item : Shape)
  /-- A list of fields. -/
  | tuple (title : String) (fields : Fields)
  /-- An object with given fields, or a list of them. -/
  | record (title : String) (fields : Fields)

/-- The fields of a tuple or a record, in their order. -/
inductive Fields where
  | nil
  | cons (name : String) (presence : Presence) (shape : Shape) (rest : Fields)

end

mutual

/-- The type of the values that are read from documents of a shape. -/
def Shape.Value : Shape → Type
  | .text => String
  | .flag => Bool
  | .real => FiniteFloat
  | .literal => Json
  | .choice names => Fin names.length
  | .nullable shape => Option shape.Value
  | .list item => List item.Value
  | .table item => Table item.Value
  | .tuple _ fields => fields.Row
  | .record _ fields => fields.Row

/-- The values of all fields, in their order. -/
def Fields.Row : Fields → Type
  | .nil => Unit
  | .cons _ _ shape rest => shape.Value × rest.Row

end

/-- How messages call the documents of a shape. -/
def Shape.expected : Shape → String
  | text => "a string"
  | flag => "a boolean"
  | real => "f64"
  | literal => "any value"
  | choice _ => "string or map"
  | nullable shape => shape.expected
  | list _ => "a sequence"
  | table _ => "a map"
  | tuple title _ => title
  | record title _ => title

namespace Fields

/-- The number of fields. -/
def size : Fields → Nat
  | nil => 0
  | cons _ _ _ rest => rest.size + 1

/-- The names of the fields. -/
def names : Fields → List String
  | nil => []
  | cons name _ _ rest => name :: rest.names

end Fields

/-- The first misfit among members: one that does not fit itself, or one with a known name that was seen before. -/
def firstMisfit? (misfit? : String → Json → Option Misfit) (known : List String) :
    List String → List (String × Json) → Option Misfit
  | _, [] => none
  | seen, m :: rest =>
    if m.1 ∈ known ∧ m.1 ∈ seen then some (.duplicateField m.1)
    else (misfit? m.1 m.2).or (firstMisfit? misfit? known (m.1 :: seen) rest)

mutual

/-- Reads a document of a shape. -/
def Shape.decode : (shape : Shape) → Json → Except Misfit shape.Value
  | .text, j =>
    match j with
    | .str s => .ok s
    | _ => .error (.wrongType j.found Shape.text.expected)
  | .flag, j =>
    match j with
    | .bool b => .ok b
    | _ => .error (.wrongType j.found Shape.flag.expected)
  | .real, j =>
    match j with
    | .num n =>
      match n.toFloat? with
      | some x => .ok x
      | none => .error (.wrongType j.found Shape.real.expected)
    | _ => .error (.wrongType j.found Shape.real.expected)
  | .literal, j => .ok j
  | .choice names, j =>
    match j with
    | .str s =>
      match names.finIdxOf? s with
      | some i => .ok i
      | none => .error (.unknownChoice s names)
    | _ => .error (.wrongType j.found (Shape.choice names).expected)
  | .nullable shape, j =>
    match j with
    | .null => .ok none
    | _ => some <$> shape.decode j
  | .list item, j =>
    match j with
    | .arr items => items.mapM fun j => item.decode j
    | _ => .error (.wrongType j.found (Shape.list item).expected)
  | .table item, j =>
    match j with
    | .obj members => Table.ofList <$> members.mapM fun m => (m.1, ·) <$> item.decode m.2
    | _ => .error (.wrongType j.found (Shape.table item).expected)
  | .tuple title fields, j =>
    match j with
    | .arr items => fields.decodeItems title fields.size 0 items
    | _ => .error (.wrongType j.found title)
  | .record title fields, j =>
    match j with
    | .arr items => fields.decodeItems title fields.size 0 items
    | .obj members =>
      match fields.decodeMembers members with
      | .ok row => .ok row
      | .error m => .error ((firstMisfit? (fun name j => fields.misfit? name j) fields.names [] members).getD m)
    | _ => .error (.wrongType j.found title)

/-- Reads fields from the items of a list, of which some were read before. -/
def Fields.decodeItems : (fields : Fields) → (title : String) → (size before : Nat) → List Json →
    Except Misfit fields.Row
  | .nil, _, size, before, items =>
    if items.isEmpty then .ok () else .error (.tooLong (before + items.length) size)
  | .cons _ presence shape rest, title, size, before, items =>
    match items, presence.inList? with
    | item :: items, _ => do
      let x ← shape.decode item
      let row ← rest.decodeItems title size (before + 1) items
      return (x, row)
    | [], some neutral => do
      let x ← shape.decode neutral
      let row ← rest.decodeItems title size (before + 1) []
      return (x, row)
    | [], none => .error (.tooShort before title size)

/-- Reads fields from the members of an object. -/
def Fields.decodeMembers : (fields : Fields) → List (String × Json) → Except Misfit fields.Row
  | .nil, _ => .ok ()
  | .cons name presence shape rest, members => do
    let x ← match members.filter fun m => m.1 == name, presence.inObject? with
      | [m], _ => shape.decode m.2
      | [], some neutral => shape.decode neutral
      | [], none => .error (.missingField name)
      | _ :: _ :: _, _ => .error (.duplicateField name)
    let row ← rest.decodeMembers members
    return (x, row)

/-- How a member does not fit the field of its name, if there is one. -/
def Fields.misfit? : Fields → String → Json → Option Misfit
  | .nil, _, _ => none
  | .cons name _ shape rest, member, j =>
    if member = name then
      match shape.decode j with
      | .ok _ => none
      | .error m => some m
    else rest.misfit? member j

end

end AudioGraph
