import AudioGraph.Shape.Basic
import AudioGraph.Specification.Basic

/-!
# Specifications as documents

Each part of a specification has a shape, is made of the row of its fields, and is written as an object of its fields in
their order.  Fields that hold nothing are not written: an absent initial value or position, the variable name of a
node of a type of the catalogue, an empty table of literal values.

A node has its kind in two fields, the name of its type and the name of a variable; an endpoint is a name.
-/

namespace AudioGraph

/-- A member that is written only if there is a value. -/
def Json.optionalMember (name : String) : Option Json → List (String × Json)
  | none => []
  | some j => [(name, j)]

namespace Variable

/-- The shape of a variable. -/
def shape : Shape :=
  .record "struct Variable" <|
    .cons "name" .required .text <|
    .cons "type" .required .text <|
    .cons "default" (.optional .null) (.nullable .literal) .nil

/-- The variable of a row of fields. -/
def ofRow : shape.Value → Variable
  | (name, pinType, default, ()) => ⟨name, pinType, default⟩

/-- The document of a variable. -/
def toJson (v : Variable) : Json :=
  .obj <| [("name", .str v.name), ("type", .str v.pinType)] ++ Json.optionalMember "default" v.default

end Variable

namespace GraphInput

/-- The shape of an input. -/
def shape : Shape :=
  .record "struct GraphInput" <|
    .cons "name" .required .text <|
    .cons "type" .required .text <|
    .cons "default" (.optional .null) (.nullable .literal) .nil

/-- The input of a row of fields. -/
def ofRow : shape.Value → GraphInput
  | (name, pinType, default, ()) => ⟨name, pinType, default⟩

/-- The document of an input. -/
def toJson (pin : GraphInput) : Json :=
  .obj <| [("name", .str pin.name), ("type", .str pin.pinType)] ++ Json.optionalMember "default" pin.default

end GraphInput

namespace GraphOutput

/-- The shape of an output. -/
def shape : Shape :=
  .record "struct GraphOutput" <|
    .cons "name" .required .text <|
    .cons "type" .required .text .nil

/-- The output of a row of fields. -/
def ofRow : shape.Value → GraphOutput
  | (name, pinType, ()) => ⟨name, pinType⟩

/-- The document of an output. -/
def toJson (pin : GraphOutput) : Json :=
  .obj [("name", .str pin.name), ("type", .str pin.pinType)]

end GraphOutput

namespace Position

/-- The shape of a position. -/
def shape : Shape :=
  .tuple "tuple struct Position" <|
    .cons "x" .required .real <|
    .cons "y" .required .real .nil

/-- The position of a row of coordinates. -/
def ofRow : shape.Value → Position
  | (x, y, ()) => ⟨x.val, y.val⟩

/-- The document of a position. -/
def toJson (p : Position) : Json := .arr [.ofFloat p.x, .ofFloat p.y]

end Position

namespace Node

/-- The shape of a node. -/
def shape : Shape :=
  .record "struct RawNode" <|
    .cons "id" .required .text <|
    .cons "node_type" .required .text <|
    .cons "variable_name" (.optional (.str "")) .text <|
    .cons "position" (.optional .null) (.nullable Position.shape) <|
    .cons "defaults" (.optional (.obj [])) (.table .literal) .nil

/-- The node of a row of fields. -/
def ofRow : shape.Value → Node
  | (id, typeName, accessed, position, defaults, ()) =>
    ⟨id, .ofNames typeName accessed, position.map Position.ofRow, defaults⟩

/-- The document of a node. -/
def toJson (node : Node) : Json :=
  let name := node.kind.accessed?.getD ""
  .obj <| [("id", .str node.id), ("node_type", .str node.kind.typeName)] ++
    (if name = "" then [] else [("variable_name", .str name)]) ++
    Json.optionalMember "position" (node.position.map Position.toJson) ++
    (if node.defaults.isEmpty then [] else [("defaults", .obj node.defaults.entries)])

end Node

namespace Connection

/-- The shape of a connection. -/
def shape : Shape :=
  .record "struct Connection" <|
    .cons "from_node" .required .text <|
    .cons "from_pin" .required .text <|
    .cons "to_node" .required .text <|
    .cons "to_pin" .required .text .nil

/-- The connection of a row of fields. -/
def ofRow : shape.Value → Connection
  | (source, sourcePin, destination, destinationPin, ()) =>
    ⟨.ofName source, sourcePin, .ofName destination, destinationPin⟩

/-- The document of a connection. -/
def toJson (c : Connection) : Json :=
  .obj [("from_node", .str c.source.name), ("from_pin", .str c.sourcePin),
    ("to_node", .str c.destination.name), ("to_pin", .str c.destinationPin)]

end Connection

namespace Specification

/-- The shape of a specification. -/
def shape : Shape :=
  .record "struct Specification" <|
    .cons "name" .required .text <|
    .cons "asset_type" .required .text <|
    .cons "interfaces" (.optional (.arr [])) (.list .text) <|
    .cons "variables" (.optional (.arr [])) (.list Variable.shape) <|
    .cons "inputs" (.optional (.arr [])) (.list GraphInput.shape) <|
    .cons "outputs" (.optional (.arr [])) (.list GraphOutput.shape) <|
    .cons "nodes" .required (.list Node.shape) <|
    .cons "connections" .required (.list Connection.shape) .nil

/-- The specification of a row of fields. -/
def ofRow : shape.Value → Specification
  | (name, assetType, interfaces, vars, inputs, outputs, nodes, connections, ()) =>
    ⟨name, assetType, interfaces, vars.map Variable.ofRow, inputs.map GraphInput.ofRow,
      outputs.map GraphOutput.ofRow, nodes.map Node.ofRow, connections.map Connection.ofRow⟩

/-- The document of a specification. -/
def toJson (spec : Specification) : Json :=
  .obj [("name", .str spec.name), ("asset_type", .str spec.assetType),
    ("interfaces", .arr (spec.interfaces.map .str)),
    ("variables", .arr (spec.vars.map Variable.toJson)),
    ("inputs", .arr (spec.inputs.map GraphInput.toJson)),
    ("outputs", .arr (spec.outputs.map GraphOutput.toJson)),
    ("nodes", .arr (spec.nodes.map Node.toJson)),
    ("connections", .arr (spec.connections.map Connection.toJson))]

end Specification

end AudioGraph
