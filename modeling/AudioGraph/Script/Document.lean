import AudioGraph.Specification.Document
import AudioGraph.Script.Operation

/-!
# Scripts as documents

An operation is an object with the word for its action under `action` and its fields beside it, or a list that starts
with this word.  In an object the action may stand anywhere.  A script is the list of its operations.
-/

namespace AudioGraph

/-- A name in small letters, with an underscore before each capital but one at its start. -/
def snakeCase (name : String) : String :=
  match name.toList with
  | [] => ""
  | first :: rest =>
    .ofList (first.toLower :: rest.flatMap fun c => if c.isUpper then ['_', c.toLower] else [c.toLower])

namespace Action

/-- The member of an operation that holds its action. -/
def tag : String := "action"

/-- The name of the constructor of the operations of an action. -/
def constructorName : Action → String
  | beginGraph => "BeginGraph"
  | attachInterface => "AttachInterface"
  | declareVariable => "DeclareVariable"
  | declareGraphInput => "DeclareGraphInput"
  | declareGraphOutput => "DeclareGraphOutput"
  | placeNode => "PlaceNode"
  | placeVariableRead => "PlaceVariableRead"
  | placeVariableWrite => "PlaceVariableWrite"
  | setDefault => "SetDefault"
  | connect => "Connect"
  | finalize => "Finalize"

/-- How messages call the operations of an action. -/
def title (action : Action) : String := "struct variant Operation::" ++ action.constructorName

/-- The word that stands for an action in a document. -/
def word (action : Action) : String := snakeCase action.constructorName

/-- The words of all actions. -/
def words : List String := all.map word

/-- The action of a word. -/
def ofWord? (s : String) : Option Action := all.find? fun action => action.word == s

/-- An action is found under its word. -/
theorem ofWord?_word (action : Action) : ofWord? action.word = some action := by
  cases action <;> decide

/-- Documents call each action by its name. -/
theorem word_eq_name (action : Action) : action.word = action.name := by
  cases action <;> decide

/-- The fields of the operations of an action. -/
def fields : Action → Fields
  | beginGraph =>
    .cons "asset_kind" .required .text <|
    .cons "name" .required .text .nil
  | attachInterface => .cons "interface" .required .text .nil
  | declareVariable | declareGraphInput =>
    .cons "name" .required .text <|
    .cons "type" .required .text <|
    .cons "default" (.optional .null) (.nullable .literal) .nil
  | declareGraphOutput =>
    .cons "name" .required .text <|
    .cons "type" .required .text .nil
  | placeNode =>
    .cons "id" .required .text <|
    .cons "type_name" .required .text <|
    .cons "placement" (.optional .null) (.nullable Position.shape) .nil
  | placeVariableRead =>
    .cons "id" .required .text <|
    .cons "variable_name" .required .text <|
    .cons "delayed" .required .flag .nil
  | placeVariableWrite =>
    .cons "id" .required .text <|
    .cons "variable_name" .required .text .nil
  | setDefault =>
    .cons "node_id" .required .text <|
    .cons "input_name" .required .text <|
    .cons "value" .required .literal .nil
  | connect =>
    .cons "source_node" .required .text <|
    .cons "source_pin" .required .text <|
    .cons "dest_node" .required .text <|
    .cons "dest_pin" .required .text .nil
  | finalize =>
    .cons "name" .required .text <|
    .cons "target_location" .required .text .nil

/-- The shape of the operations of an action, without the action itself. -/
def shape (action : Action) : Shape := .record action.title action.fields

/-- The action of a document. -/
def ofJson : Json → Except Misfit Action
  | .str s =>
    match ofWord? s with
    | some action => .ok action
    | none => .error (.unknownChoice s words)
  | j => .error (.wrongType j.found "variant identifier")

/-- The action among the members of an object; it must be there once. -/
def ofMembers : Option Action → List (String × Json) → Except Misfit Action
  | none, [] => .error (.missingField tag)
  | some action, [] => .ok action
  | before, m :: rest =>
    if m.1 = tag then
      match before with
      | some _ => .error (.duplicateField tag)
      | none => do ofMembers (some (← ofJson m.2)) rest
    else ofMembers before rest

end Action

namespace Operation

/-- The operation of an action and a row of its fields. -/
def ofRow : (action : Action) → action.shape.Value → Operation
  | .beginGraph, (assetKind, name, ()) => .beginGraph assetKind name
  | .attachInterface, (name, ()) => .attachInterface name
  | .declareVariable, (name, pinType, default, ()) => .declareVariable name pinType default
  | .declareGraphInput, (name, pinType, default, ()) => .declareGraphInput name pinType default
  | .declareGraphOutput, (name, pinType, ()) => .declareGraphOutput name pinType
  | .placeNode, (id, typeName, placement, ()) => .placeNode id typeName (placement.map Position.ofRow)
  | .placeVariableRead, (id, name, delayed, ()) => .placeVariableRead id name delayed
  | .placeVariableWrite, (id, name, ()) => .placeVariableWrite id name
  | .setDefault, (node, input, value, ()) => .setDefault node input value
  | .connect, (source, sourcePin, destination, destinationPin, ()) =>
    .connect ⟨.ofName source, sourcePin, .ofName destination, destinationPin⟩
  | .finalize, (name, targetLocation, ()) => .finalize name targetLocation

/-- Reads an operation from a document. -/
def ofJson : Json → Except Misfit Operation
  | .obj members => do
    let action ← Action.ofMembers none members
    ofRow action <$> action.shape.decode (.obj (members.filter fun m => m.1 != Action.tag))
  | .arr [] => .error (.missingField Action.tag)
  | .arr (first :: items) => do
    let action ← Action.ofJson first
    ofRow action <$> action.shape.decode (.arr items)
  | j => .error (.wrongType j.found "internally tagged enum Operation")

/-- The fields of an operation, as they are written. -/
def members : Operation → List (String × Json)
  | beginGraph assetKind name => [("asset_kind", .str assetKind), ("name", .str name)]
  | attachInterface name => [("interface", .str name)]
  | declareVariable name pinType default | declareGraphInput name pinType default =>
    [("name", .str name), ("type", .str pinType)] ++ Json.optionalMember "default" default
  | declareGraphOutput name pinType => [("name", .str name), ("type", .str pinType)]
  | placeNode id typeName placement =>
    [("id", .str id), ("type_name", .str typeName)] ++ Json.optionalMember "placement" (placement.map Position.toJson)
  | placeVariableRead id name delayed => [("id", .str id), ("variable_name", .str name), ("delayed", .bool delayed)]
  | placeVariableWrite id name => [("id", .str id), ("variable_name", .str name)]
  | setDefault node input value => [("node_id", .str node), ("input_name", .str input), ("value", value)]
  | connect c =>
    [("source_node", .str c.source.name), ("source_pin", .str c.sourcePin), ("dest_node", .str c.destination.name),
      ("dest_pin", .str c.destinationPin)]
  | finalize name targetLocation => [("name", .str name), ("target_location", .str targetLocation)]

/-- The document of an operation. -/
def toJson (op : Operation) : Json := .obj ((Action.tag, .str op.action.word) :: op.members)

/-- Reads a script from a document. -/
def scriptOfJson : Json → Except Misfit (List Operation)
  | .arr items => items.mapM ofJson
  | j => .error (.wrongType j.found "a sequence")

/-- The document of a script. -/
def scriptJson (script : List Operation) : Json := .arr (script.map toJson)

end Operation

end AudioGraph
