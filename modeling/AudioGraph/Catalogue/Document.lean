import AudioGraph.Shape.Basic
import AudioGraph.Catalogue.Basic

/-!
# Catalogues as documents

Every part of a catalogue may be left out.  An input is required unless it says otherwise.  A document may list a name
of a set more than once, and a name of a table, too: then the last entry counts.

A catalogue is written with all its names in ascending order.
-/

namespace AudioGraph

namespace Pin

/-- The shape of a pin, under the name that messages give it. -/
def shape (title : String) : Shape :=
  .record title <|
    .cons "name" .required .text <|
    .cons "type" .required .text .nil

/-- The pin of a row of fields. -/
def ofRow {title : String} : (shape title).Value → Pin
  | (name, pinType, ()) => ⟨name, pinType⟩

/-- The document of a pin. -/
def toJson (pin : Pin) : Json := .obj [("name", .str pin.name), ("type", .str pin.pinType)]

end Pin

namespace InputPin

/-- The shape of an input. -/
def shape : Shape :=
  .record "struct InputPin" <|
    .cons "name" .required .text <|
    .cons "type" .required .text <|
    .cons "required" (.optional (.bool true)) .flag <|
    .cons "default" (.optional .null) (.nullable .literal) .nil

/-- The input of a row of fields. -/
def ofRow : shape.Value → InputPin
  | (name, pinType, required, default, ()) => ⟨name, pinType, required, default⟩

/-- The document of an input. -/
def toJson (pin : InputPin) : Json :=
  .obj <| [("name", .str pin.name), ("type", .str pin.pinType), ("required", .bool pin.required)] ++
    match pin.default with
    | none => []
    | some j => [("default", j)]

end InputPin

namespace NodeSignature

/-- The shape of a signature. -/
def shape : Shape :=
  .record "struct NodeSignature" <|
    .cons "inputs" (.optional (.arr [])) (.list InputPin.shape) <|
    .cons "outputs" (.optional (.arr [])) (.list (Pin.shape "struct OutputPin")) .nil

/-- The signature of a row of fields. -/
def ofRow : shape.Value → NodeSignature
  | (inputs, outputs, ()) => ⟨inputs.map InputPin.ofRow, outputs.map Pin.ofRow⟩

/-- The document of a signature. -/
def toJson (signature : NodeSignature) : Json :=
  .obj [("inputs", .arr (signature.inputs.map InputPin.toJson)), ("outputs", .arr (signature.outputs.map Pin.toJson))]

end NodeSignature

namespace Interface

/-- The shape of an interface. -/
def shape : Shape :=
  .record "struct InterfaceDef" <|
    .cons "inputs" (.optional (.arr [])) (.list (Pin.shape "struct BoundaryPin")) <|
    .cons "outputs" (.optional (.arr [])) (.list (Pin.shape "struct BoundaryPin")) .nil

/-- The interface of a row of fields. -/
def ofRow : shape.Value → Interface
  | (inputs, outputs, ()) => ⟨inputs.map Pin.ofRow, outputs.map Pin.ofRow⟩

/-- The document of an interface. -/
def toJson (i : Interface) : Json :=
  .obj [("inputs", .arr (i.inputs.map Pin.toJson)), ("outputs", .arr (i.outputs.map Pin.toJson))]

end Interface

/-- The document of a set: its names in ascending order. -/
def NameSet.toJson (names : NameSet) : Json := .arr (names.toList.map .str)

/-- The document of a table, with its names in ascending order. -/
def Table.sortedJson {α : Type} (document : α → Json) (table : Table α) : Json :=
  .obj <| (NameSet.ofList table.names).toList.filterMap fun name =>
    (table.get? name).map fun value => (name, document value)

namespace Catalogue

/-- The shape of a catalogue. -/
def shape : Shape :=
  .record "struct Catalogue" <|
    .cons "asset_types" (.optional (.arr [])) (.list .text) <|
    .cons "pin_types" (.optional (.arr [])) (.list .text) <|
    .cons "compatibility" (.optional (.obj [])) (.table (.list .text)) <|
    .cons "interfaces" (.optional (.obj [])) (.table Interface.shape) <|
    .cons "node_types" (.optional (.obj [])) (.table NodeSignature.shape) .nil

/-- The catalogue of a row of fields. -/
def ofRow : shape.Value → Catalogue
  | (assetTypes, pinTypes, compatibility, interfaces, nodeTypes, ()) =>
    ⟨.ofList assetTypes, .ofList pinTypes, compatibility.map NameSet.ofList, interfaces.map Interface.ofRow,
      nodeTypes.map NodeSignature.ofRow⟩

/-- Reads a catalogue from a document, whether or not it declares all pin types that it names. -/
def ofJson (document : Json) : Except Misfit Catalogue := ofRow <$> shape.decode document

/-- The document of a catalogue. -/
def toJson (catalogue : Catalogue) : Json :=
  .obj [("asset_types", catalogue.assetTypes.toJson), ("pin_types", catalogue.pinTypes.toJson),
    ("compatibility", catalogue.compatibility.sortedJson NameSet.toJson),
    ("interfaces", catalogue.interfaces.sortedJson Interface.toJson),
    ("node_types", catalogue.nodeTypes.sortedJson NodeSignature.toJson)]

end Catalogue

end AudioGraph
