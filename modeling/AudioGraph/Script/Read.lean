import AudioGraph.Shape.Read
import AudioGraph.Script.Document

/-!
# Reading scripts

A script is read from a text operation by operation.  The action of an operation is checked where it stands, and its
fields when the operation was read as a whole, so that a misfit among them has the place behind the operation.
-/

namespace AudioGraph

namespace Reader

/-- Reads the members of an operation, behind its bracket, and checks its action. -/
def operationMembers (item : Reader Json) : Nat → Bool → Bool → Reader (List (String × Json))
  | 0, _, _ => failHere .endInObject
  | steps + 1, first, tagged => do
    match ← nextName? first with
    | none =>
      if tagged then
        skip
        return []
      else objectMisfit (.missingField Action.tag)
    | some name =>
      if name = Action.tag ∧ tagged then objectMisfit (.duplicateField name)
      else do
        let m ← namedValue (if name = Action.tag then nameOf Action.words else item) name
        return m :: (← operationMembers item steps false (tagged || name == Action.tag))

/-- Reads the items of an operation, behind its bracket, and checks its action. -/
def operationItems (item : Reader Json) : Reader (List Json) := do
  if ← nextElement true then
    let name ← nameOf Action.words
    let rest ← elements item (← limit) false
    skip
    return name :: rest
  else listMisfit (.missingField Action.tag)

/-- Reads an operation as a document, given how to read the values in it, if there may be any. -/
def operationDocument (inner : Option (Reader Json)) : Reader Json := do
  match ← peekPart? with
  | some '{' => .obj <$> nested (inner.map fun item => do operationMembers item (← limit) true false)
  | some '[' => .arr <$> nested (inner.map operationItems)
  | _ => scalarOf (fun _ => false) "internally tagged enum Operation"

/-- Reads the operations of a script, behind its bracket. -/
def operations : Nat → Bool → Reader (List Operation)
  | 0, _ => failHere .endInList
  | steps + 1, first => do
    if ← nextElement first then
      let document ← operationDocument (some (value (greatestDepth - 2)))
      match Operation.ofJson document with
      | .ok op => return op :: (← operations steps false)
      | .error m => listMisfit m
    else
      skip
      return []

/-- Reads a script. -/
def script : Reader (List Operation) := do
  match ← peekPart? with
  | some '[' =>
    skip
    operations (← limit) true
  | _ =>
    let _ ← scalarOf (fun _ => false) "a sequence"
    return []

end Reader

/-- Reads a script from a text. -/
def Operation.scriptOfText (text : String) : Except TextError (List Operation) :=
  (Reader.whole Reader.script).ofText text

end AudioGraph
