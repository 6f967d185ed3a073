import AudioGraph.Json.Numeral
import AudioGraph.Json.TextLiteral
import AudioGraph.Collection.Entries

/-!
# Reading a document

`Json.ofText` reads a text as one document.  Lists and objects may stand in each other up to a depth of 127; of members
with the same name the last gives the value and the first gives the place.
-/

namespace AudioGraph

namespace Reader

/-- The depth up to which lists and objects are read. -/
def greatestDepth : Nat := 127

/-- Moves to the next element of a list, and tells whether there is one.  The closing bracket is not taken. -/
def nextElement (first : Bool) : Reader Bool := do
  match ← peekPart? with
  | none => failHere .endInList
  | some ']' => return false
  | some c =>
    if first then return true
    else if c = ',' then do
      skip
      match ← peekPart? with
      | none => failHere .endInValue
      | some ']' => failNext .trailingComma
      | some _ => return true
    else failNext .expectedCommaOrBracket

/-- Reads the name of the next member of an object, if there is one.  The closing brace is not taken. -/
def nextName? (first : Bool) : Reader (Option String) := do
  match ← peekPart? with
  | none => failHere .endInObject
  | some '}' => return none
  | some c =>
    if first then name c
    else if c = ',' then do
      skip
      match ← peekPart? with
      | none => failHere .endInValue
      | some '}' => failNext .trailingComma
      | some c => name c
    else failNext .expectedCommaOrBrace
where
  /-- Reads a name that starts with the given character. -/
  name (c : Char) : Reader (Option String) := do
    if c = '"' then do
      skip
      return some (← textLiteral)
    else failNext .keyNotText

/-- Takes the colon between a name and its value. -/
def colon : Reader Unit := do
  match ← peekPart? with
  | none => failHere .endInObject
  | some ':' => skip
  | some _ => failNext .expectedColon

/-- Reads the elements of a list one by one. -/
def elements {α : Type} (element : Reader α) : Nat → Bool → Reader (List α)
  | 0, _ => failHere .endInList
  | steps + 1, first => do
    if ← nextElement first then
      let x ← element
      return x :: (← elements element steps false)
    else return []

/-- Reads the members of an object one by one; what a member holds may depend on its name. -/
def members {α : Type} (member : String → Reader α) : Nat → Bool → Reader (List α)
  | 0, _ => failHere .endInObject
  | steps + 1, first => do
    match ← nextName? first with
    | none => return []
    | some name =>
      let x ← member name
      return x :: (← members member steps false)

/-- Reads a member whose value does not depend on its name. -/
def namedValue {α : Type} (value : Reader α) (name : String) : Reader (String × α) := do
  colon
  return (name, ← value)

/-- Reads a value that is no list and no object, given its first character. -/
def scalar (first : Char) : Reader Json := do
  match first with
  | 'n' => word ['n', 'u', 'l', 'l']; return .null
  | 't' => word ['t', 'r', 'u', 'e']; return .bool true
  | 'f' => word ['f', 'a', 'l', 's', 'e']; return .bool false
  | '"' => skip; return .str (← textLiteral)
  | c => if c = '-' ∨ c.isDigit then return .num (← number) else failNext .expectedValue

/-- Takes an opening bracket and reads what stands in it, if there is a reader for that. -/
def nested {α : Type} (inner : Option (Reader α)) : Reader α := do
  match inner with
  | none => failNext .tooDeep
  | some reader =>
    skip
    reader

/-- Reads a value, given how to read the values in it, if there may be any. -/
def valueOver (inner : Option (Reader Json)) : Reader Json := do
  match ← peekPart? with
  | none => failHere .endInValue
  | some '[' =>
    let items ← nested (inner.map fun item => do elements item (← limit) true)
    skip
    return .arr items
  | some '{' =>
    let ms ← nested (inner.map fun item => do members (namedValue item) (← limit) true)
    skip
    return .obj (Entries.merge ms)
  | some c => scalar c

/-- Reads a value in which lists and objects stand in each other up to the given depth. -/
def value : Nat → Reader Json
  | 0 => valueOver none
  | depth + 1 => valueOver (some (value depth))

/-- Reads a whole text: a part of it, and blanks behind. -/
def whole {α : Type} (reader : Reader α) : Reader α := do
  let x ← reader
  match ← peekPart? with
  | none => return x
  | some _ => failNext .trailingCharacters

end Reader

/-- Reads a text as one document. -/
def Json.ofText (text : String) : Except TextError Json :=
  (Reader.whole (Reader.value Reader.greatestDepth)).ofText text

end AudioGraph
