import AudioGraph.Collection.Repeats
import AudioGraph.Diagnosis.PinResolver
import AudioGraph.Diagnosis.Violation

/-!
# Checks

Each check lists the violations of one part of a specification, in the order of that part.  What one check has reported
is passed over by those that need it: a connection with an unknown end has no pins, a node of an unknown type has no
required inputs, an unknown interface asks for nothing.
-/

namespace AudioGraph

namespace Violation

/-- A violation, unless all is fine. -/
def ifNot (fine : Bool) (violation : Violation) : List Violation := if fine then [] else [violation]

end Violation

open Violation (ifNot)

/-- The signature of a node of a type of the catalogue. -/
def Catalogue.signature? (catalogue : Catalogue) (node : Node) : Option NodeSignature :=
  match node.kind with
  | .external typeName => catalogue.nodeType? typeName
  | _ => none

namespace Specification

/-- The asset type must be known. -/
def assetTypeViolations (spec : Specification) (catalogue : Catalogue) : List Violation :=
  ifNot (catalogue.isAssetType spec.assetType) (.unknownAssetType spec.assetType catalogue.assetTypes.toList)

/-- Every interface must be known. -/
def interfaceViolations (spec : Specification) (catalogue : Catalogue) : List Violation :=
  spec.interfaces.flatMap fun name =>
    ifNot (catalogue.interface? name).isSome (.unknownInterface name catalogue.interfaceNames.toList)

/-- Variables must have names of their own, and known pin types. -/
def variableViolations (spec : Specification) (catalogue : Catalogue) : List Violation :=
  (markRepeats Variable.name spec.vars).flatMap fun (v, repeated) =>
    ifNot (!repeated) (.duplicateVariable v.name) ++
      ifNot (catalogue.isPinType v.pinType) (.unknownVariableType v.name v.pinType)

/-- A node must be of a known type, or read or write a declared variable. -/
def nodeKindViolations (spec : Specification) (catalogue : Catalogue) (node : Node) : List Violation :=
  match node.kind with
  | .external typeName => ifNot (catalogue.nodeType? typeName).isSome (.unknownNodeType node.id typeName)
  | .read name | .delayedRead name | .write name =>
    ifNot (spec.findVariable? name).isSome (.undeclaredVariable node.id name)

/-- Nodes must have ids of their own, and each must be something known. -/
def nodeViolations (spec : Specification) (catalogue : Catalogue) : List Violation :=
  (markRepeats Node.id spec.nodes).flatMap fun (node, repeated) =>
    ifNot (!repeated) (.duplicateNode node.id) ++ spec.nodeKindViolations catalogue node

end Specification

namespace PinResolver

/-- Whether both ends of a connection are known. -/
def containsBoth (pins : PinResolver) (c : Connection) : Bool := pins.contains c.source && pins.contains c.destination

/-- Both ends of a connection must be known, then both pins, and then the one pin must be able to feed the other. -/
def connectionViolations (pins : PinResolver) (c : Connection) : List Violation :=
  if pins.containsBoth c then
    match pins.outputType? c.source c.sourcePin, pins.inputType? c.destination c.destinationPin with
    | some sourceType, some destinationType =>
      ifNot (pins.catalogue.isCompatible sourceType destinationType)
        (.typeMismatch c sourceType destinationType (pins.catalogue.compatibleTargets sourceType).toList)
    | sourceType?, destinationType? =>
      ifNot sourceType?.isSome (.unknownOutput c.source c.sourcePin) ++
        ifNot destinationType?.isSome (.unknownInput c.destination c.destinationPin)
  else
    ifNot (pins.contains c.source) (.danglingSource c.source) ++
      ifNot (pins.contains c.destination) (.danglingDestination c.destination)

/-- The pins at which connections between known ends arrive. -/
def fedPins (pins : PinResolver) (connections : List Connection) : List (Endpoint × String) :=
  (connections.filter pins.containsBoth).map fun c => (c.destination, c.destinationPin)

end PinResolver

namespace Specification

/-- The literal values of a node must be values of its inputs. -/
def defaultViolations (spec : Specification) (catalogue : Catalogue) : List Violation :=
  spec.nodes.flatMap fun node =>
    match catalogue.signature? node with
    | none => []
    | some signature =>
      node.defaults.names.flatMap fun pin =>
        ifNot (signature.input? pin).isSome (.unknownDefault node.id node.kind.typeName pin)

/-- A required input must be fed, or have a literal or a documented value. -/
def requiredInputViolations (spec : Specification) (catalogue : Catalogue) (fed : List (Endpoint × String)) :
    List Violation :=
  spec.nodes.flatMap fun node =>
    match catalogue.signature? node with
    | none => []
    | some signature =>
      signature.inputs.flatMap fun pin =>
        ifNot (!pin.required || fed.contains (.node node.id, pin.name) || (node.defaults.get? pin.name).isSome ||
          pin.default.isSome) (.unfedInput node.id node.kind.typeName pin.name)

/-- Every boundary pin that an interface asks for must be declared. -/
def interfacePinViolations (spec : Specification) (catalogue : Catalogue) : List Violation :=
  spec.interfaces.flatMap fun name =>
    match catalogue.interface? name with
    | none => []
    | some i =>
      (i.inputs.flatMap fun pin => ifNot (spec.findInput? pin.name).isSome (.missingInput name pin.name)) ++
        i.outputs.flatMap fun pin => ifNot (spec.findOutput? pin.name).isSome (.missingOutput name pin.name)

/-- All violations of a specification. -/
def violations (spec : Specification) (catalogue : Catalogue) : List Violation :=
  let pins := PinResolver.new spec catalogue
  spec.assetTypeViolations catalogue ++ spec.interfaceViolations catalogue ++ spec.variableViolations catalogue ++
    spec.nodeViolations catalogue ++ spec.connections.flatMap pins.connectionViolations ++
    spec.defaultViolations catalogue ++ spec.requiredInputViolations catalogue (pins.fedPins spec.connections) ++
    spec.interfacePinViolations catalogue

/-- The diagnostics of a specification: none if it can be built. -/
def validate (spec : Specification) (catalogue : Catalogue) : List Diagnostic :=
  (spec.violations catalogue).map Violation.toDiagnostic

end Specification

end AudioGraph
