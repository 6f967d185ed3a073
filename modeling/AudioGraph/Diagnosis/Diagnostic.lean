import AudioGraph.Shape.Read

/-!
# Diagnostics

A diagnostic reports one problem of a specification: a code, the phase that found it, its kind, a message, and the node
it is about, if it is about one.
-/

namespace AudioGraph

/-- When a problem was found: while a specification was read, or while it was checked. -/
inductive Phase where
  | parse
  | validate
  deriving DecidableEq

/-- The name of a phase. -/
def Phase.name : Phase → String
  | parse => "Parse"
  | validate => "Validate"

/-- The broad category of a problem. -/
inductive ProblemKind where
  /-- Missing fields, repeated names, dangling endpoints, undeclared variables. -/
  | structural
  /-- A name that the catalogue does not know. -/
  | catalogueLookup
  /-- A pin that a node or the boundary does not have. -/
  | pinResolution
  /-- Pin types that do not go together. -/
  | type
  /-- Required inputs and interface pins that are missing, and literal values for no pin. -/
  | completeness
  deriving DecidableEq

/-- The name of a category. -/
def ProblemKind.name : ProblemKind → String
  | structural => "structural"
  | catalogueLookup => "catalogue_lookup"
  | pinResolution => "pin_resolution"
  | type => "type"
  | completeness => "completeness"

/-- One problem of a specification. -/
structure Diagnostic where
  code : String
  phase : Phase
  kind : ProblemKind
  message : String
  node : Option String
  deriving DecidableEq

namespace Phase

/-- All phases. -/
def all : List Phase := [parse, validate]

/-- The phase at an index of the list of all phases. -/
def ofIndex (i : Fin (all.map name).length) : Phase := all.get ⟨i.val, by simpa using i.isLt⟩

end Phase

namespace ProblemKind

/-- All categories. -/
def all : List ProblemKind := [structural, catalogueLookup, pinResolution, type, completeness]

/-- The category at an index of the list of all categories. -/
def ofIndex (i : Fin (all.map name).length) : ProblemKind := all.get ⟨i.val, by simpa using i.isLt⟩

/-- The category of a name. -/
def ofName (name : String) : Except Misfit ProblemKind :=
  ofIndex <$> (Shape.choice (all.map ProblemKind.name)).decode (.str name)

end ProblemKind

namespace Diagnostic

/-- A problem found while a specification was read. -/
def ofParse (code message : String) : Diagnostic := ⟨code, .parse, .structural, message, none⟩

/-- A problem in one line. -/
def display (d : Diagnostic) : String :=
  let line := "[" ++ d.phase.name ++ ":" ++ d.code ++ "] " ++ d.message
  match d.node with
  | none => line
  | some id => line ++ " (node '" ++ id ++ "')"

/-- The document of an optional text. -/
def optionalText : Option String → Json
  | none => .null
  | some s => .str s

/-- The document of a diagnostic. -/
def toJson (d : Diagnostic) : Json :=
  .obj [("code", .str d.code), ("phase", .str d.phase.name), ("kind", .str d.kind.name), ("message", .str d.message),
    ("node_id", optionalText d.node)]

/-- The shape of a diagnostic. -/
def shape : Shape :=
  .record "struct SpecError" <|
    .cons "code" .required .text <|
    .cons "phase" .required (.choice (Phase.all.map Phase.name)) <|
    .cons "kind" .required (.choice (ProblemKind.all.map ProblemKind.name)) <|
    .cons "message" .required .text <|
    .cons "node_id" (.omittable .null) (.nullable .text) .nil

/-- The diagnostic of a row of fields. -/
def ofRow : shape.Value → Diagnostic
  | (code, phase, kind, message, node, ()) => ⟨code, .ofIndex phase, .ofIndex kind, message, node⟩

/-- Reads a diagnostic from a document. -/
def ofJson (document : Json) : Except Misfit Diagnostic := ofRow <$> shape.decode document

/-- Reads a diagnostic from a text. -/
def ofText (text : String) : Except TextError Diagnostic := shape.readText ofJson text

end Diagnostic

end AudioGraph
