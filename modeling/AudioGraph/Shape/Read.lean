import AudioGraph.Shape.Basic
import AudioGraph.Json.Skim

/-!
# Reading a document of a shape from a text

`Shape.reader` reads a text straight into a document of a shape, so that a misfit is reported at its place: behind a
wrong scalar, before a wrong bracket, behind a wrong name.  A misfit of a whole list or object is reported where its
bracket closes, or where it was found not to close.  The document that is read is then decoded as any other one.

Members that a record does not know are passed over, and the document holds none of them.  A table may repeat a name, a
record may not.
-/

namespace AudioGraph

namespace Reader

/-- Reads a scalar that must be of a given kind. -/
def scalarOf (fits : Json → Bool) (expected : String) : Reader Json := do
  match ← peekPart? with
  | none => failHere .endInValue
  | some '[' => misfit (.wrongType .list expected)
  | some '{' => misfit (.wrongType .object expected)
  | some c =>
    let j ← scalar c
    if fits j then return j else misfit (.wrongType j.found expected)

/-- Reads one of several names. -/
def nameOf (names : List String) : Reader Json := do
  let j ← scalarOf (fun j => j.found matches .str _) "variant identifier"
  match j with
  | .str s => if s ∈ names then return j else misfit (.unknownChoice s names)
  | _ => return j

/-- Reads one of several names, which may also be the one name of an object that holds null. -/
def choice (names : List String) (deeper : Bool) : Reader Json := do
  match ← peekPart? with
  | none => failHere .endInValue
  | some '"' => nameOf names
  | some '{' =>
    let name ← nested (if deeper then some (member names) else none)
    match ← peekPart? with
    | none => failHere .endInObject
    | some '}' => skip; return name
    | some _ => failHere .expectedValue
  | some _ => failNext .expectedValue
where
  /-- Reads the only member of an object.  It must be there, under a quoted name. -/
  member (names : List String) : Reader Json := do
    match ← peekPart? with
    | none => failHere .endInObject
    | some '"' =>
      let name ← nameOf names
      colon
      let _ ← scalarOf (fun j => j.found matches .null) "unit"
      return name
    | some '}' => failNext .expectedValue
    | some _ => failNext .keyNotText

/-- Reports a misfit of a list of which all that was asked for is read. -/
def listMisfit {α : Type} (m : Misfit) : Reader α := do
  match ← peekPart? with
  | some ']' => skip
  | some ',' =>
    skip
    let _ ← peekPart?
  | _ => pure ()
  misfit m

/-- Reports a misfit of an object. -/
def objectMisfit {α : Type} (m : Misfit) : Reader α := do
  if (← peekPart?) = some '}' then skip
  misfit m

/-- Takes the closing bracket of a list that may hold no more. -/
def listEnd : Reader Unit := do
  match ← peekPart? with
  | none => failHere .endInList
  | some ']' => skip
  | some ',' =>
    skip
    if (← peekPart?) = some ']' then failNext .trailingComma else failNext .trailingCharacters
  | some _ => failNext .trailingCharacters

end Reader

/-- How to read a field. -/
structure FieldReader where
  name : String
  presence : Presence
  reader : Reader Json

namespace Reader

/-- Reads fields from the items of a list, behind its bracket. -/
def fieldItems (title : String) (size : Nat) : List FieldReader → Nat → Reader (List Json)
  | [], _ => do
    listEnd
    return []
  | field :: rest, before => do
    if ← nextElement (before == 0) then
      let item ← field.reader
      return item :: (← fieldItems title size rest (before + 1))
    else
      match (field :: rest).findIdx? fun f => f.presence.inList?.isNone with
      | some missing => listMisfit (.tooShort (before + missing) title size)
      | none =>
        skip
        return []

/-- Reads fields from the members of an object, behind its bracket. -/
def fieldMembers (fields : List FieldReader) : Nat → List String → Reader (List (String × Json))
  | 0, _ => failHere .endInObject
  | steps + 1, seen => do
    match ← nextName? seen.isEmpty with
    | none =>
      match fields.find? fun f => f.presence.inObject?.isNone && !seen.contains f.name with
      | some missing => objectMisfit (.missingField missing.name)
      | none =>
        skip
        return []
    | some name =>
      match fields.find? fun f => f.name == name with
      | none =>
        colon
        skimValue
        fieldMembers fields steps (name :: seen)
      | some field =>
        if seen.contains name then objectMisfit (.duplicateField name)
        else do
          colon
          let j ← field.reader
          return (name, j) :: (← fieldMembers fields steps (name :: seen))

/-- Reads a tuple. -/
def tuple (title : String) (fields : Option (List FieldReader)) : Reader Json := do
  match ← peekPart? with
  | some '[' => .arr <$> nested (fields.map fun fields => fieldItems title fields.length fields 0)
  | _ => scalarOf (fun _ => false) title

/-- Reads a record. -/
def record (title : String) (fields : Option (List FieldReader)) : Reader Json := do
  match ← peekPart? with
  | some '{' => .obj <$> nested (fields.map fun fields => do fieldMembers fields (← limit) [])
  | _ => tuple title fields

/-- Reads a list. -/
def listOf (item : Option (Reader Json)) : Reader Json := do
  match ← peekPart? with
  | some '[' =>
    let items ← nested (item.map fun item => do elements item (← limit) true)
    skip
    return .arr items
  | _ => scalarOf (fun _ => false) "a sequence"

/-- Reads a table. -/
def tableOf (item : Option (Reader Json)) : Reader Json := do
  match ← peekPart? with
  | some '{' =>
    let ms ← nested (item.map fun item => do members (namedValue item) (← limit) true)
    skip
    return .obj ms
  | _ => scalarOf (fun _ => false) "a map"

/-- Reads null, or else what the given reader reads. -/
def nullOr (reader : Reader Json) : Reader Json := do
  if (← peekPart?) = some 'n' then scalar 'n' else reader

end Reader

mutual

/-- Reads a document of a shape, in which lists and objects stand in each other up to the given depth. -/
def Shape.reader : Shape → Nat → Reader Json
  | .text, _ => Reader.scalarOf (fun j => j.found matches .str _) Shape.text.expected
  | .flag, _ => Reader.scalarOf (fun j => j.found matches .bool _) Shape.flag.expected
  | .real, _ => Reader.scalarOf (fun j => j.found matches .num _) Shape.real.expected
  | .literal, depth => Reader.value depth
  | .choice names, depth => Reader.choice names (0 < depth)
  | .nullable shape, depth => Reader.nullOr (shape.reader depth)
  | .list item, depth =>
    Reader.listOf (match depth with | 0 => none | depth + 1 => some (item.reader depth))
  | .table item, depth =>
    Reader.tableOf (match depth with | 0 => none | depth + 1 => some (item.reader depth))
  | .tuple title fields, depth =>
    Reader.tuple title (match depth with | 0 => none | depth + 1 => some (fields.readers depth))
  | .record title fields, depth =>
    Reader.record title (match depth with | 0 => none | depth + 1 => some (fields.readers depth))

/-- How to read each of several fields. -/
def Fields.readers : Fields → Nat → List FieldReader
  | .nil, _ => []
  | .cons name presence shape rest, depth => ⟨name, presence, shape.reader depth⟩ :: rest.readers depth

end

namespace Shape

/-- Reads a text as one document of a shape. -/
def documentOfText (shape : Shape) (text : String) : Except TextError Json :=
  (Reader.whole (shape.reader Reader.greatestDepth)).ofText text

/-- Reads a text as one document of a shape, and decodes the document.  What only decoding finds is reported at the
end of the text. -/
def readText {α : Type} (shape : Shape) (decode : Json → Except Misfit α) (text : String) : Except TextError α :=
  match shape.documentOfText text with
  | .error e => .error e
  | .ok document =>
    match decode document with
    | .ok value => .ok value
    | .error m => .error ⟨.misfit m, (Cursor.ofString text).textEnd⟩

end Shape

end AudioGraph
