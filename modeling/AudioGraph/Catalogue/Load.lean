import AudioGraph.Shape.Read
import AudioGraph.Catalogue.Document

/-!
# Loading catalogues

A catalogue is closed if it declares every pin type that it names: in the compatibility table, in the signatures of its
node types, and in its interfaces.  Only closed catalogues are loaded (`Catalogue.requireClosed_eq_ok_iff`).

The tables of a catalogue have no order of their own.  Each load goes through their entries in an order that may be any,
and of several places that are at fault it reports the one that it comes to first.
-/

namespace AudioGraph

/-- A place of a catalogue that names a pin type. -/
inductive PinTypePlace where
  /-- A row of the compatibility table. -/
  | compatibility (source : String)
  | nodeInput (nodeType pin : String)
  | nodeOutput (nodeType pin : String)
  | interfaceInput (interface pin : String)
  | interfaceOutput (interface pin : String)
  deriving DecidableEq

/-- How messages call a place. -/
def PinTypePlace.message : PinTypePlace → String
  | compatibility source => "compatibility entry '" ++ source ++ "'"
  | nodeInput nodeType pin => "node type '" ++ nodeType ++ "' input '" ++ pin ++ "'"
  | nodeOutput nodeType pin => "node type '" ++ nodeType ++ "' output '" ++ pin ++ "'"
  | interfaceInput interface pin => "interface '" ++ interface ++ "' input '" ++ pin ++ "'"
  | interfaceOutput interface pin => "interface '" ++ interface ++ "' output '" ++ pin ++ "'"

/-- What a catalogue is loaded from. -/
inductive StoredFile where
  | absent
  | directory
  | bytes (content : ByteArray)

/-- Why the content of a file is no text. -/
inductive FileFault where
  | notFound
  | isDirectory
  | notText
  deriving DecidableEq

/-- The wording of a file fault. -/
def FileFault.message : FileFault → String
  | notFound => "No such file or directory (os error 2)"
  | isDirectory => "Is a directory (os error 21)"
  | notText => "stream did not contain valid UTF-8"

/-- Why a catalogue is not loaded. -/
inductive LoadError where
  | unreadable (fault : FileFault)
  | malformed (error : TextError)
  /-- A place names a pin type that the catalogue does not declare. -/
  | undeclaredPinType (place : PinTypePlace) (pinType : String)
  deriving DecidableEq

/-- The wording of a load error. -/
def LoadError.message : LoadError → String
  | unreadable fault => "failed to read catalogue file: " ++ fault.message
  | malformed error => "failed to parse catalogue JSON: " ++ error.message
  | undeclaredPinType place pinType => place.message ++ " references undeclared pin type '" ++ pinType ++ "'"

namespace Catalogue

/-- The pin types that a row of the compatibility table names. -/
def rowPlaces (source : String) (targets : NameSet) : List (PinTypePlace × String) :=
  (source :: targets.toList).map fun pinType => (.compatibility source, pinType)

/-- The pin types that a signature names. -/
def signaturePlaces (nodeType : String) (signature : NodeSignature) : List (PinTypePlace × String) :=
  (signature.inputs.map fun pin => (.nodeInput nodeType pin.name, pin.pinType)) ++
    signature.outputs.map fun pin => (.nodeOutput nodeType pin.name, pin.pinType)

/-- The pin types that an interface names. -/
def interfacePlaces (name : String) (i : Interface) : List (PinTypePlace × String) :=
  (i.inputs.map fun pin => (.interfaceInput name pin.name, pin.pinType)) ++
    i.outputs.map fun pin => (.interfaceOutput name pin.name, pin.pinType)

/-- All places of a catalogue that name a pin type, and the pin types that they name. -/
def places (catalogue : Catalogue) : List (PinTypePlace × String) :=
  (catalogue.compatibility.entries.flatMap fun row => rowPlaces row.1 row.2) ++
    (catalogue.nodeTypes.entries.flatMap fun entry => signaturePlaces entry.1 entry.2) ++
    catalogue.interfaces.entries.flatMap fun entry => interfacePlaces entry.1 entry.2

/-- Every pin type that the catalogue names is one that it declares. -/
def Closed (catalogue : Catalogue) : Prop := ∀ place ∈ catalogue.places, place.2 ∈ catalogue.pinTypes

/-- Accepts a closed catalogue, and refuses another one for the first place that names an undeclared pin type. -/
def requireClosed (catalogue : Catalogue) : Except LoadError Catalogue :=
  match catalogue.places.find? fun place => !catalogue.isPinType place.2 with
  | none => .ok catalogue
  | some (place, pinType) => .error (.undeclaredPinType place pinType)

theorem requireClosed_eq_ok_iff {catalogue accepted : Catalogue} :
    catalogue.requireClosed = .ok accepted ↔ accepted = catalogue ∧ catalogue.Closed := by
  unfold requireClosed
  split
  · next h =>
    have closed : catalogue.Closed := fun place hp => by
      have := List.find?_eq_none.1 h place hp
      simpa [isPinType] using this
    simp only [Except.ok.injEq, closed, and_true]
    exact eq_comm
  · next place pinType h =>
    have hm := List.mem_of_find?_eq_some h
    have hp := List.find?_some h
    simp only [reduceCtorEq, false_iff, not_and]
    intro _ closed
    have := closed _ hm
    simp [isPinType, this] at hp

/-- The same catalogue with the entries of its tables in another order. -/
structure Reordered (catalogue other : Catalogue) : Prop where
  assetTypes : catalogue.assetTypes = other.assetTypes
  pinTypes : catalogue.pinTypes = other.pinTypes
  compatibility : catalogue.compatibility.entries.Perm other.compatibility.entries
  interfaces : catalogue.interfaces.entries.Perm other.interfaces.entries
  nodeTypes : catalogue.nodeTypes.entries.Perm other.nodeTypes.entries

end Catalogue

/-- The order in which a load goes through the entries of the tables of a catalogue. -/
structure VisitingOrder where
  arrange : Catalogue → Catalogue
  reordered : ∀ catalogue : Catalogue, catalogue.Reordered (arrange catalogue)

/-- The order in which the entries were written. -/
def VisitingOrder.asWritten : VisitingOrder := ⟨id, fun _ => ⟨rfl, rfl, .refl _, .refl _, .refl _⟩⟩

@[simp]
theorem VisitingOrder.arrange_asWritten (catalogue : Catalogue) : asWritten.arrange catalogue = catalogue := rfl

namespace Catalogue

/-- Loads a catalogue from a text. -/
def ofText (text : String) (order : VisitingOrder := .asWritten) : Except LoadError Catalogue :=
  match shape.readText ofJson text with
  | .ok catalogue => (order.arrange catalogue).requireClosed
  | .error e => .error (.malformed e)

theorem ofText_of_readText_ok {text : String} {catalogue : Catalogue}
    (read : shape.readText ofJson text = .ok catalogue) (order : VisitingOrder) :
    ofText text order = (order.arrange catalogue).requireClosed := by
  rw [ofText, read]

theorem ofText_of_readText_error {text : String} {e : TextError} (failed : shape.readText ofJson text = .error e)
    (order : VisitingOrder) : ofText text order = .error (.malformed e) := by
  rw [ofText, failed]

/-- A catalogue that is loaded from a text is closed. -/
theorem closed_of_ofText {text : String} {order : VisitingOrder} {catalogue : Catalogue}
    (h : ofText text order = .ok catalogue) : catalogue.Closed := by
  unfold ofText at h
  split at h
  · obtain ⟨rfl, closed⟩ := requireClosed_eq_ok_iff.1 h
    exact closed
  · cases h

/-- Loads a catalogue from a file. -/
def load (file : StoredFile) (order : VisitingOrder := .asWritten) : Except LoadError Catalogue :=
  match file with
  | .absent => .error (.unreadable .notFound)
  | .directory => .error (.unreadable .isDirectory)
  | .bytes content =>
    match String.fromUTF8? content with
    | some text => ofText text order
    | none => .error (.unreadable .notText)

end Catalogue

end AudioGraph
