import Std.Data.HashMap
import AudioGraph.Specification.Basic
import AudioGraph.Catalogue.Basic

/-!
# Resolving pins

A `PinResolver` finds the type of the pin at an end of a connection.  It looks nodes up in an index, which holds the
first node of each id (`getElem?_indexNodes`).

On the boundary a graph input is a source and a graph output is a destination.  A node of a type of the catalogue has
the pins of its signature.  A node that reads a variable has one output, whatever its name; one that writes a variable
has two inputs.
-/

namespace AudioGraph

/-- The input through which a node writes a variable. -/
def valuePin : String := "Value"

/-- The input that makes a node write a variable. -/
def executePin : String := "Execute"

/-- The type of every pin that makes a node act. -/
def triggerType : String := "Trigger"

/-- The first node of each id. -/
def indexNodes (nodes : List Node) : Std.HashMap String Node :=
  nodes.foldl (fun index node => index.insertIfNew node.id node) ∅

/-- Finds the types of pins. -/
structure PinResolver where
  spec : Specification
  catalogue : Catalogue
  index : Std.HashMap String Node

namespace PinResolver

/-- The resolver for a specification and a catalogue. -/
def new (spec : Specification) (catalogue : Catalogue) : PinResolver := ⟨spec, catalogue, indexNodes spec.nodes⟩

/-- Whether an endpoint is the boundary or a declared node. -/
def contains (pins : PinResolver) : Endpoint → Bool
  | .boundary => true
  | .node id => pins.index.contains id

/-- The pin type of a variable. -/
def variableType? (pins : PinResolver) (name : String) : Option String :=
  (pins.spec.findVariable? name).map (·.pinType)

/-- The type of a pin of a node from which a connection may start. -/
def nodeOutputType? (pins : PinResolver) (kind : NodeKind) (pin : String) : Option String :=
  match kind with
  | .external typeName => do
    let signature ← pins.catalogue.nodeType? typeName
    return (← signature.output? pin).pinType
  | .read name | .delayedRead name => pins.variableType? name
  | .write _ => none

/-- The type of a pin of a node at which a connection may end. -/
def nodeInputType? (pins : PinResolver) (kind : NodeKind) (pin : String) : Option String :=
  match kind with
  | .external typeName => do
    let signature ← pins.catalogue.nodeType? typeName
    return (← signature.input? pin).pinType
  | .read _ | .delayedRead _ => none
  | .write name =>
    if pin = valuePin then pins.variableType? name
    else if pin = executePin then some triggerType
    else none

/-- The type of a pin from which a connection may start. -/
def outputType? (pins : PinResolver) (endpoint : Endpoint) (pin : String) : Option String :=
  match endpoint with
  | .boundary => (pins.spec.findInput? pin).map (·.pinType)
  | .node id => pins.index[id]?.bind fun node => pins.nodeOutputType? node.kind pin

/-- The type of a pin at which a connection may end. -/
def inputType? (pins : PinResolver) (endpoint : Endpoint) (pin : String) : Option String :=
  match endpoint with
  | .boundary => (pins.spec.findOutput? pin).map (·.pinType)
  | .node id => pins.index[id]?.bind fun node => pins.nodeInputType? node.kind pin

end PinResolver

private theorem getElem?_foldl_insertIfNew (nodes : List Node) (index : Std.HashMap String Node) (id : String) :
    (nodes.foldl (fun index node => index.insertIfNew node.id node) index)[id]? =
      index[id]?.or (nodes.find? fun node => node.id == id) := by
  induction nodes generalizing index with
  | nil => simp
  | cons node rest ih =>
    rw [List.foldl_cons, ih, Std.HashMap.getElem?_insertIfNew, List.find?_cons]
    by_cases h : node.id = id
    · subst h
      by_cases hm : node.id ∈ index <;> simp [hm]
    · have hb : (node.id == id) = false := by simpa using h
      simp [hb]

/-- The index holds the first node of each id. -/
theorem getElem?_indexNodes (nodes : List Node) (id : String) :
    (indexNodes nodes)[id]? = nodes.find? fun node => node.id == id := by
  simp [indexNodes, getElem?_foldl_insertIfNew]

end AudioGraph
