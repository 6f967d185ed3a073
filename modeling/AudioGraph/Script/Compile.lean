import AudioGraph.Diagnosis.Checks
import AudioGraph.Script.Operation

/-!
# Scripts of specifications

The script of a specification names the graph, declares what is on its boundary, places its nodes, gives literal
values to inputs, connects pins, and finishes with the place where the graph is stored.

Every specification has a script; `Specification.build` gives it to specifications without violations only.
-/

namespace AudioGraph

/-- The operation that places a node. -/
def Node.placement (node : Node) : Operation :=
  match node.kind with
  | .external typeName => .placeNode node.id typeName node.position
  | .read name => .placeVariableRead node.id name false
  | .delayedRead name => .placeVariableRead node.id name true
  | .write name => .placeVariableWrite node.id name

/-- The operations that give literal values to the inputs of a node.  Nodes that read or write a variable take none. -/
def Node.settings (node : Node) : List Operation :=
  if node.kind.isAccessor then [] else node.defaults.entries.map fun entry => .setDefault node.id entry.1 entry.2

/-- Where graphs are stored if nothing else is said. -/
def defaultTarget : String := "/Game/Audio/Generated/"

namespace Specification

/-- The operations that build the graph of a specification, and store it at a target location. -/
def script (spec : Specification) (target : String) : List Operation :=
  [.beginGraph spec.assetType spec.name] ++
    spec.interfaces.map .attachInterface ++
    spec.vars.map (fun v => .declareVariable v.name v.pinType v.default) ++
    spec.inputs.map (fun pin => .declareGraphInput pin.name pin.pinType pin.default) ++
    spec.outputs.map (fun pin => .declareGraphOutput pin.name pin.pinType) ++
    spec.nodes.map Node.placement ++
    spec.nodes.flatMap Node.settings ++
    spec.connections.map .connect ++
    [.finalize spec.name target]

/-- The script of a specification without violations, or else what is wrong with it. -/
def build (spec : Specification) (catalogue : Catalogue) (target : String) :
    Except (List Diagnostic) (List Operation) :=
  match spec.validate catalogue with
  | [] => .ok (spec.script target)
  | diagnostics => .error diagnostics

end Specification

end AudioGraph
