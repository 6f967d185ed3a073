import AudioGraph.Diagnosis.Diagnostic
import AudioGraph.Specification.Basic

/-!
# Violations

The sixteen ways in which a specification can contradict itself or its catalogue.  Each has a code, a category, a
message, and perhaps a node that it is about.
-/

namespace AudioGraph

/-- A way in which a specification contradicts itself or its catalogue. -/
inductive Violation where
  | unknownAssetType (assetType : String) (known : List String)
  | unknownInterface (name : String) (known : List String)
  | duplicateVariable (name : String)
  | unknownVariableType (name pinType : String)
  | duplicateNode (id : String)
  | undeclaredVariable (node name : String)
  | unknownNodeType (node typeName : String)
  /-- A connection from a node that is not declared. -/
  | danglingSource (endpoint : Endpoint)
  /-- A connection to a node that is not declared. -/
  | danglingDestination (endpoint : Endpoint)
  /-- A connection from a pin that its node does not have. -/
  | unknownOutput (endpoint : Endpoint) (pin : String)
  /-- A connection to a pin that its node does not have. -/
  | unknownInput (endpoint : Endpoint) (pin : String)
  /-- A connection between pins of which the one may not feed the other. -/
  | typeMismatch (connection : Connection) (sourceType destinationType : String) (targets : List String)
  /-- A literal value for an input that the node does not have. -/
  | unknownDefault (node typeName pin : String)
  /-- A required input without a connection and without a value. -/
  | unfedInput (node typeName pin : String)
  /-- An input that an interface asks for and the graph does not declare. -/
  | missingInput (interface pin : String)
  /-- An output that an interface asks for and the graph does not declare. -/
  | missingOutput (interface pin : String)
  deriving DecidableEq

namespace Violation

/-- The code of a violation. -/
def code : Violation → String
  | unknownAssetType .. => "V001"
  | unknownInterface .. => "V002"
  | duplicateVariable .. => "V003"
  | unknownVariableType .. => "V004"
  | duplicateNode .. => "V005"
  | undeclaredVariable .. => "V006"
  | unknownNodeType .. => "V007"
  | danglingSource .. => "V008"
  | danglingDestination .. => "V009"
  | unknownOutput .. => "V010"
  | unknownInput .. => "V011"
  | typeMismatch .. => "V012"
  | unknownDefault .. => "V013"
  | unfedInput .. => "V014"
  | missingInput .. => "V015"
  | missingOutput .. => "V016"

/-- The category of a violation. -/
def kind : Violation → ProblemKind
  | duplicateVariable .. | duplicateNode .. | undeclaredVariable .. | danglingSource .. | danglingDestination .. =>
    .structural
  | unknownAssetType .. | unknownInterface .. | unknownVariableType .. | unknownNodeType .. => .catalogueLookup
  | unknownOutput .. | unknownInput .. => .pinResolution
  | typeMismatch .. => .type
  | unknownDefault .. | unfedInput .. | missingInput .. | missingOutput .. => .completeness

private def single (s : String) : String := "'" ++ s ++ "'"

/-- The message of a violation. -/
def message : Violation → String
  | unknownAssetType assetType known =>
    "Invalid asset_type " ++ single assetType ++ ". Must be one of: " ++ Quoted.list known
  | unknownInterface name known =>
    "Unknown interface " ++ single name ++ ". Valid interfaces: " ++ Quoted.list known
  | duplicateVariable name => "Duplicate variable name: " ++ single name
  | unknownVariableType name pinType => "Variable " ++ single name ++ " has invalid type " ++ single pinType
  | duplicateNode id => "Duplicate node ID: " ++ single id
  | undeclaredVariable node name => "Node " ++ single node ++ " references undeclared variable " ++ single name
  | unknownNodeType node typeName => "Node " ++ single node ++ " references unknown node_type " ++ single typeName
  | danglingSource endpoint => "Connection from_node " ++ single endpoint.name ++ " does not exist"
  | danglingDestination endpoint => "Connection to_node " ++ single endpoint.name ++ " does not exist"
  | unknownOutput endpoint pin => "Output pin " ++ single pin ++ " not found on node " ++ single endpoint.name
  | unknownInput endpoint pin => "Input pin " ++ single pin ++ " not found on node " ++ single endpoint.name
  | typeMismatch c sourceType destinationType targets =>
    "Type mismatch: " ++ single (c.source.name ++ "." ++ c.sourcePin) ++ " outputs " ++ single sourceType ++
      " but " ++ single (c.destination.name ++ "." ++ c.destinationPin) ++ " expects " ++ single destinationType ++
      " (compatible targets for " ++ single sourceType ++ ": " ++ Quoted.list targets ++ ")"
  | unknownDefault node typeName pin =>
    "Node " ++ single node ++ " (" ++ typeName ++ "): default " ++ single pin ++ " does not name an input pin"
  | unfedInput node typeName pin =>
    "Node " ++ single node ++ " (" ++ typeName ++ "): required input " ++ single pin ++
      " is neither connected nor has a default"
  | missingInput interface pin =>
    "Interface " ++ single interface ++ " requires graph input " ++ single pin ++ " but it is missing"
  | missingOutput interface pin =>
    "Interface " ++ single interface ++ " requires graph output " ++ single pin ++ " but it is missing"

/-- The node that a violation is about. -/
def node? : Violation → Option String
  | duplicateNode id => some id
  | undeclaredVariable node _ | unknownNodeType node _ | unknownDefault node .. | unfedInput node .. => some node
  | unknownOutput endpoint _ | unknownInput endpoint _ => endpoint.nodeId?
  | typeMismatch c .. => c.destination.nodeId?
  | unknownAssetType .. | unknownInterface .. | duplicateVariable .. | unknownVariableType .. | danglingSource _
  | danglingDestination _ | missingInput .. | missingOutput .. => none

/-- The diagnostic of a violation. -/
def toDiagnostic (v : Violation) : Diagnostic := ⟨v.code, .validate, v.kind, v.message, v.node?⟩

end Violation

end AudioGraph
