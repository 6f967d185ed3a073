import AudioGraph.Specification.Basic

/-!
# Editing specifications

New parts are added at the end of their list.  Nothing is checked, so that an edit can be undone by another one.
-/

namespace AudioGraph

namespace Specification

/-- Adds an interface. -/
def addInterface (spec : Specification) (name : String) : Specification :=
  { spec with interfaces := spec.interfaces ++ [name] }

/-- Adds a variable. -/
def addVariable (spec : Specification) (v : Variable) : Specification := { spec with vars := spec.vars ++ [v] }

/-- Adds an input to the boundary. -/
def addInput (spec : Specification) (pin : GraphInput) : Specification := { spec with inputs := spec.inputs ++ [pin] }

/-- Adds an output to the boundary. -/
def addOutput (spec : Specification) (pin : GraphOutput) : Specification :=
  { spec with outputs := spec.outputs ++ [pin] }

/-- Adds a node. -/
def addNode (spec : Specification) (node : Node) : Specification := { spec with nodes := spec.nodes ++ [node] }

/-- Adds a connection. -/
def addConnection (spec : Specification) (c : Connection) : Specification :=
  { spec with connections := spec.connections ++ [c] }

/-- Changes the node at an index. -/
def modifyNode (spec : Specification) (index : Nat) (change : Node → Node) : Specification :=
  { spec with nodes := spec.nodes.modify index change }

/-- Gives the node at an index a literal value for a pin. -/
def setDefault (spec : Specification) (index : Nat) (pin : String) (value : Json) : Specification :=
  spec.modifyNode index fun node => node.withDefault pin value

/-- The lists that a specification is made of. -/
inductive Part where
  | interfaces
  | vars
  | inputs
  | outputs
  | nodes
  | connections
  deriving DecidableEq

/-- The length of a list of a specification. -/
def size (spec : Specification) : Part → Nat
  | .interfaces => spec.interfaces.length
  | .vars => spec.vars.length
  | .inputs => spec.inputs.length
  | .outputs => spec.outputs.length
  | .nodes => spec.nodes.length
  | .connections => spec.connections.length

/-- Removes what stands at an index of a list. -/
def remove (spec : Specification) (part : Part) (index : Nat) : Specification :=
  match part with
  | .interfaces => { spec with interfaces := spec.interfaces.eraseIdx index }
  | .vars => { spec with vars := spec.vars.eraseIdx index }
  | .inputs => { spec with inputs := spec.inputs.eraseIdx index }
  | .outputs => { spec with outputs := spec.outputs.eraseIdx index }
  | .nodes => { spec with nodes := spec.nodes.eraseIdx index }
  | .connections => { spec with connections := spec.connections.eraseIdx index }

end Specification

end AudioGraph
