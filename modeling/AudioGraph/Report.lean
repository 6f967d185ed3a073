import AudioGraph.Text.Blank
import AudioGraph.Specification.Parse
import AudioGraph.Catalogue.BuiltIn
import AudioGraph.Script.Compile

/-!
# From texts to reports

What an editor asks for: to check a specification, or to build it, when the specification and the catalogue are texts.
A blank text stands for the built-in catalogue, and an empty target for the default location.

A catalogue that is not loaded is reported before anything else.  Each request loads the catalogue anew, and goes
through its tables in an order of its own.
-/

namespace AudioGraph

/-- What an editor is told.  A report about the catalogue has no category. -/
structure Report where
  code : String
  phase : String
  kind : Option ProblemKind
  message : String
  node : Option String
  deriving DecidableEq

namespace Report

/-- The report of a diagnostic. -/
def ofDiagnostic (d : Diagnostic) : Report := ⟨d.code, d.phase.name, some d.kind, d.message, d.node⟩

/-- The report of a catalogue that is not loaded. -/
def ofLoadError (e : LoadError) : Report := ⟨"C001", "Catalogue", none, e.message, none⟩

/-- The document of a report. -/
def toJson (r : Report) : Json :=
  .obj [("code", .str r.code), ("phase", .str r.phase), ("kind", Diagnostic.optionalText (r.kind.map ProblemKind.name)),
    ("message", .str r.message), ("node_id", Diagnostic.optionalText r.node)]

end Report

/-- The diagnostics of the text of a specification. -/
def Specification.validateText (text : String) (catalogue : Catalogue) : List Diagnostic :=
  match Specification.ofText text with
  | .ok spec => spec.validate catalogue
  | .error e => [e.toDiagnostic]

/-- The catalogue of a text. -/
def catalogueOfText (text : String) (order : VisitingOrder := .asWritten) : Except Report Catalogue :=
  if isBlank text then .ok (order.arrange .builtIn)
  else
    match Catalogue.ofText text order with
    | .ok catalogue => .ok catalogue
    | .error e => .error (.ofLoadError e)

/-- Checks the text of a specification against the text of a catalogue. -/
def checkText (specification catalogue : String) (order : VisitingOrder := .asWritten) : List Report :=
  match catalogueOfText catalogue order with
  | .ok catalogue => (Specification.validateText specification catalogue).map Report.ofDiagnostic
  | .error report => [report]

/-- The target location of a text. -/
def targetOfText (text : String) : String := if text.isEmpty then defaultTarget else text

/-- Builds the text of a specification with the text of a catalogue. -/
def buildText (specification catalogue target : String) (order : VisitingOrder := .asWritten) :
    Except (List Report) (List Operation) :=
  match catalogueOfText catalogue order with
  | .error report => .error [report]
  | .ok catalogue =>
    match Specification.ofText specification with
    | .error e => .error [.ofDiagnostic e.toDiagnostic]
    | .ok spec =>
      match spec.build catalogue (targetOfText target) with
      | .ok script => .ok script
      | .error diagnostics => .error (diagnostics.map Report.ofDiagnostic)

end AudioGraph
