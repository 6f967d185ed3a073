import AudioGraph.Specification.Basic

/-!
# Operations

A script is a list of operations, by which an engine builds a graph.  Each operation has an action; later operations
refer to what earlier ones have made.

`Action.name` is what an engine and its messages call an action.  The word by which documents tell an action is made
from the name of its constructor, independently of this table (`Action.word`); that the two agree is
`Action.word_eq_name`.
-/

namespace AudioGraph

/-- What an operation does. -/
inductive Action where
  | beginGraph
  | attachInterface
  | declareVariable
  | declareGraphInput
  | declareGraphOutput
  | placeNode
  | placeVariableRead
  | placeVariableWrite
  | setDefault
  | connect
  | finalize
  deriving DecidableEq

namespace Action

/-- All actions. -/
def all : List Action :=
  [beginGraph, attachInterface, declareVariable, declareGraphInput, declareGraphOutput, placeNode, placeVariableRead,
    placeVariableWrite, setDefault, connect, finalize]

/-- The name of an action. -/
def name : Action → String
  | beginGraph => "begin_graph"
  | attachInterface => "attach_interface"
  | declareVariable => "declare_variable"
  | declareGraphInput => "declare_graph_input"
  | declareGraphOutput => "declare_graph_output"
  | placeNode => "place_node"
  | placeVariableRead => "place_variable_read"
  | placeVariableWrite => "place_variable_write"
  | setDefault => "set_default"
  | connect => "connect"
  | finalize => "finalize"

end Action

/-- One step in building a graph. -/
inductive Operation where
  | beginGraph (assetKind name : String)
  | attachInterface (name : String)
  | declareVariable (name pinType : String) (default : Option Json)
  | declareGraphInput (name pinType : String) (default : Option Json)
  | declareGraphOutput (name pinType : String)
  | placeNode (id typeName : String) (placement : Option Position)
  | placeVariableRead (id name : String) (delayed : Bool)
  | placeVariableWrite (id name : String)
  | setDefault (node input : String) (value : Json)
  | connect (connection : Connection)
  | finalize (name targetLocation : String)
  deriving DecidableEq

namespace Operation

/-- The action of an operation. -/
def action : Operation → Action
  | beginGraph .. => .beginGraph
  | attachInterface .. => .attachInterface
  | declareVariable .. => .declareVariable
  | declareGraphInput .. => .declareGraphInput
  | declareGraphOutput .. => .declareGraphOutput
  | placeNode .. => .placeNode
  | placeVariableRead .. => .placeVariableRead
  | placeVariableWrite .. => .placeVariableWrite
  | setDefault .. => .setDefault
  | connect .. => .connect
  | finalize .. => .finalize

/-- Whether an operation places a node of any kind. -/
def isPlacement : Operation → Bool
  | placeNode .. | placeVariableRead .. | placeVariableWrite .. => true
  | _ => false

end Operation

end AudioGraph
