import AudioGraph.Json.Read
import AudioGraph.Specification.Document
import AudioGraph.Diagnosis.Diagnostic

/-!
# Reading specifications

A text is read as a document first, and the document as a specification.  What goes wrong is told in one diagnostic:
either all required fields that the document lacks (code P002), or the first other problem (code P001).
-/

namespace AudioGraph

/-- Why a specification is not read. -/
inductive ParseError where
  /-- The text is not a document. -/
  | malformed (error : TextError)
  /-- The document is not an object. -/
  | notAnObject
  /-- The document lacks required fields. -/
  | missingFields (names : List String)
  /-- The document has not the shape of a specification. -/
  | misfit (misfit : Misfit)
  deriving DecidableEq

/-- The diagnostic of a specification that is not read. -/
def ParseError.toDiagnostic : ParseError → Diagnostic
  | malformed error => .ofParse "P001" ("Failed to parse graph spec JSON: " ++ error.message)
  | notAnObject => .ofParse "P001" "Graph spec must be a JSON object"
  | missingFields names => .ofParse "P002" ("Missing required top-level fields: " ++ Quoted.list names)
  | misfit m => .ofParse "P001" ("Failed to parse graph spec JSON: " ++ m.message Misfit.fewer)

namespace Specification

/-- The fields that every specification has, in the order in which they are reported. -/
def requiredFields : List String := ["asset_type", "connections", "name", "nodes"]

/-- The required fields that are not among the given names. -/
def missingFields (names : List String) : List String := requiredFields.filter fun field => !names.contains field

/-- Reads a specification from a document. -/
def ofJson : Json → Except ParseError Specification
  | .obj members =>
    match missingFields (Entries.names members) with
    | [] =>
      match shape.decode (.obj members) with
      | .ok row => .ok (ofRow row)
      | .error m => .error (.misfit m)
    | missing => .error (.missingFields missing)
  | _ => .error .notAnObject

/-- Reads a specification from a text. -/
def ofText (text : String) : Except ParseError Specification :=
  match Json.ofText text with
  | .ok document => ofJson document
  | .error e => .error (.malformed e)

end Specification

end AudioGraph
