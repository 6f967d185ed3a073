import AudioGraph.Json.Basic
import AudioGraph.Collection.Entries
import AudioGraph.Collection.NameSet

/-!
# Catalogues

A `Catalogue` lists the types of assets and of pins, which pin types may feed which, the interfaces that a graph may
have, and the signatures of the node types.  Feeding has a direction; a declared pin type always feeds itself, and an
undeclared one feeds nothing.
-/

namespace AudioGraph

/-- A pin with its type: an output of a node, or a pin on the boundary of a graph. -/
structure Pin where
  name : String
  pinType : String
  deriving DecidableEq

/-- An input of a node.  A required input with a documented value needs no connection. -/
structure InputPin where
  name : String
  pinType : String
  required : Bool
  default : Option Json
  deriving DecidableEq

/-- The pins of the nodes of a type. -/
structure NodeSignature where
  inputs : List InputPin
  outputs : List Pin
  deriving DecidableEq

namespace NodeSignature

/-- The first input of a name. -/
def input? (signature : NodeSignature) (name : String) : Option InputPin :=
  signature.inputs.find? fun pin => pin.name == name

/-- The first output of a name. -/
def output? (signature : NodeSignature) (name : String) : Option Pin :=
  signature.outputs.find? fun pin => pin.name == name

end NodeSignature

/-- The boundary pins that a graph with an interface must declare. -/
structure Interface where
  inputs : List Pin
  outputs : List Pin
  deriving DecidableEq

/-- What specifications are checked against. -/
structure Catalogue where
  assetTypes : NameSet
  pinTypes : NameSet
  /-- The pin types that a pin type may feed, itself aside. -/
  compatibility : Table NameSet
  interfaces : Table Interface
  nodeTypes : Table NodeSignature
  deriving DecidableEq

namespace Catalogue

/-- The signature of a node type. -/
def nodeType? (catalogue : Catalogue) (name : String) : Option NodeSignature := catalogue.nodeTypes.get? name

/-- The pins of an interface. -/
def interface? (catalogue : Catalogue) (name : String) : Option Interface := catalogue.interfaces.get? name

/-- Whether the catalogue has a type of assets. -/
def isAssetType (catalogue : Catalogue) (name : String) : Bool := decide (name ∈ catalogue.assetTypes)

/-- Whether the catalogue has a type of pins. -/
def isPinType (catalogue : Catalogue) (name : String) : Bool := decide (name ∈ catalogue.pinTypes)

/-- The pin types that the compatibility table lists for a pin type. -/
def listedTargets (catalogue : Catalogue) (source : String) : NameSet :=
  (catalogue.compatibility.get? source).getD .empty

/-- The pin types that a pin type may feed. -/
def compatibleTargets (catalogue : Catalogue) (source : String) : NameSet :=
  if catalogue.isPinType source then (catalogue.listedTargets source).insert source else .empty

/-- Whether a pin type may feed another one. -/
def isCompatible (catalogue : Catalogue) (source destination : String) : Bool :=
  catalogue.isPinType source && (source == destination || decide (destination ∈ catalogue.listedTargets source))

/-- A pin type may feed exactly its compatible targets. -/
theorem isCompatible_iff_mem {catalogue : Catalogue} {source destination : String} :
    catalogue.isCompatible source destination = true ↔ destination ∈ catalogue.compatibleTargets source := by
  unfold isCompatible compatibleTargets
  split
  · next h =>
    simp only [h, Bool.true_and, Bool.or_eq_true, beq_iff_eq, decide_eq_true_eq, NameSet.mem_insert]
    exact or_congr_left eq_comm
  · next h => simp [h]

/-- The names of the interfaces, in ascending order. -/
def interfaceNames (catalogue : Catalogue) : NameSet := .ofList catalogue.interfaces.names

end Catalogue

end AudioGraph
