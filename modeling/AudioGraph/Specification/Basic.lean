import AudioGraph.Json.Basic
import AudioGraph.Collection.Entries

/-!
# Specifications of audio graphs

A `Specification` describes a graph of audio nodes: its variables, the inputs and outputs on its boundary, its nodes,
and the connections between their pins.  A node is of a type of the catalogue, or it reads or writes a variable.

Nothing is checked here: names may repeat, and a connection may lead nowhere.  Where a name is looked up, its first
declaration counts.
-/

namespace AudioGraph

/-- A variable of the graph, with its pin type and its initial value. -/
structure Variable where
  name : String
  pinType : String
  default : Option Json
  deriving DecidableEq

/-- An input on the boundary, which feeds into the graph. -/
structure GraphInput where
  name : String
  pinType : String
  default : Option Json
  deriving DecidableEq

/-- An output on the boundary, which the graph feeds. -/
structure GraphOutput where
  name : String
  pinType : String
  deriving DecidableEq

/-- Where an editor shows a node. -/
structure Position where
  x : Float
  y : Float
  deriving DecidableEq

/-- What a node is, and therefore where its pins come from. -/
inductive NodeKind where
  /-- A node of a type of the catalogue. -/
  | external (typeName : String)
  /-- Reads a variable. -/
  | read (name : String)
  /-- Reads the value that a variable had in the frame before. -/
  | delayedRead (name : String)
  /-- Writes a variable. -/
  | write (name : String)
  deriving DecidableEq

namespace NodeKind

/-- The type name that stands for reading a variable. -/
def readType : String := "__variable_get__"

/-- The type name that stands for reading a variable one frame late. -/
def delayedReadType : String := "__variable_get_delayed__"

/-- The type name that stands for writing a variable. -/
def writeType : String := "__variable_set__"

/-- The name of the type of a node. -/
def typeName : NodeKind → String
  | external name => name
  | read _ => readType
  | delayedRead _ => delayedReadType
  | write _ => writeType

/-- The variable that a node reads or writes. -/
def accessed? : NodeKind → Option String
  | external _ => none
  | read name | delayedRead name | write name => some name

/-- Whether a node reads or writes a variable. -/
def isAccessor (kind : NodeKind) : Bool := kind.accessed?.isSome

/-- What a node is, by the name of its type and the name of a variable. -/
def ofNames (typeName name : String) : NodeKind :=
  if typeName = readType then read name
  else if typeName = delayedReadType then delayedRead name
  else if typeName = writeType then write name
  else external typeName

end NodeKind

/-- A node, with literal values for some of its input pins. -/
structure Node where
  id : String
  kind : NodeKind
  position : Option Position
  defaults : Table Json
  deriving DecidableEq

namespace Node

/-- A node without a position and without literal values. -/
def ofKind (id : String) (kind : NodeKind) : Node := ⟨id, kind, none, .empty⟩

/-- The node with a literal value for a pin. -/
def withDefault (node : Node) (pin : String) (value : Json) : Node :=
  { node with defaults := node.defaults.put pin value }

/-- The node at a position. -/
def placedAt (node : Node) (x y : Float) : Node := { node with position := some ⟨x, y⟩ }

end Node

/-- One end of a connection: the boundary of the graph, or a node. -/
inductive Endpoint where
  | boundary
  | node (id : String)
  deriving DecidableEq

namespace Endpoint

/-- The name that stands for the boundary. -/
def boundaryName : String := "__graph__"

/-- The name of an endpoint.  It does not tell the boundary from a node that has the name of the boundary. -/
def name : Endpoint → String
  | boundary => boundaryName
  | node id => id

/-- The endpoint that a name stands for. -/
def ofName (name : String) : Endpoint := if name = boundaryName then boundary else node name

/-- The node at an endpoint. -/
def nodeId? : Endpoint → Option String
  | boundary => none
  | node id => some id

end Endpoint

/-- A connection from a pin that gives to a pin that takes. -/
structure Connection where
  source : Endpoint
  sourcePin : String
  destination : Endpoint
  destinationPin : String
  deriving DecidableEq

/-- The description of a graph. -/
structure Specification where
  name : String
  assetType : String
  interfaces : List String
  vars : List Variable
  inputs : List GraphInput
  outputs : List GraphOutput
  nodes : List Node
  connections : List Connection
  deriving DecidableEq

namespace Specification

/-- The specification of an empty graph. -/
def empty (name assetType : String) : Specification := ⟨name, assetType, [], [], [], [], [], []⟩

/-- The first variable of a name. -/
def findVariable? (spec : Specification) (name : String) : Option Variable :=
  spec.vars.find? fun v => v.name == name

/-- The first input of a name. -/
def findInput? (spec : Specification) (name : String) : Option GraphInput :=
  spec.inputs.find? fun pin => pin.name == name

/-- The first output of a name. -/
def findOutput? (spec : Specification) (name : String) : Option GraphOutput :=
  spec.outputs.find? fun pin => pin.name == name

/-- The first node of an id. -/
def findNode? (spec : Specification) (id : String) : Option Node :=
  spec.nodes.find? fun node => node.id == id

end Specification

end AudioGraph
