import AudioGraph.Json.Basic
import AudioGraph.Decimal.Written
import AudioGraph.Text.Quoted

/-!
# What can be wrong with a document

- A `SyntaxFault` keeps a text from being a document at all.
- A `Misfit` keeps a document from having the shape that its reader asks for.
- A `TextError` is one of the two at a place of a text.

Each has its wording here and nowhere else.
-/

namespace AudioGraph

/-- What keeps a text from being a document. -/
inductive SyntaxFault where
  /-- The text ends where a value must stand, or inside one. -/
  | endInValue
  | endInObject
  | endInList
  | endInString
  /-- A character that starts no value. -/
  | expectedValue
  /-- A word that is none of `null`, `true` and `false`. -/
  | expectedLiteral
  | invalidNumber
  /-- A float beyond the largest finite one. -/
  | numberOutOfRange
  | expectedCommaOrBracket
  | expectedCommaOrBrace
  | expectedColon
  | trailingComma
  | keyNotText
  | trailingCharacters
  | invalidEscape
  /-- A first surrogate without a second one. -/
  | halfSurrogatePair
  /-- A second surrogate without a first one, or a first one in place of a second one. -/
  | loneSurrogate
  | controlCharacter
  /-- More lists and objects around each other than are read. -/
  | tooDeep
  deriving DecidableEq

/-- The wording of a syntax fault. -/
def SyntaxFault.message : SyntaxFault → String
  | endInValue => "EOF while parsing a value"
  | endInObject => "EOF while parsing an object"
  | endInList => "EOF while parsing a list"
  | endInString => "EOF while parsing a string"
  | expectedValue => "expected value"
  | expectedLiteral => "expected ident"
  | invalidNumber => "invalid number"
  | numberOutOfRange => "number out of range"
  | expectedCommaOrBracket => "expected `,` or `]`"
  | expectedCommaOrBrace => "expected `,` or `\x7d`"
  | expectedColon => "expected `:`"
  | trailingComma => "trailing comma"
  | keyNotText => "key must be a string"
  | trailingCharacters => "trailing characters"
  | invalidEscape => "invalid escape"
  | halfSurrogatePair => "unexpected end of hex escape"
  | loneSurrogate => "lone leading surrogate in hex escape"
  | controlCharacter => "control character (\\u0000-\\u001F) found while parsing a string"
  | tooDeep => "recursion limit exceeded"

/-- The wording for what stands at a place. -/
def Found.message : Found → String
  | null => "null"
  | bool b => "boolean `" ++ (if b then "true" else "false") ++ "`"
  | num (.int n) => "integer `" ++ toString n ++ "`"
  | num (.float x) => "floating point `" ++ Decimal.floatText x.val ++ "`"
  | str s => "string " ++ Quoted.text s
  | list => "sequence"
  | object => "map"

/-- What keeps a document from having a shape. -/
inductive Misfit where
  /-- Another kind of value than the shape asks for. -/
  | wrongType (found : Found) (expected : String)
  /-- A member that must be present is absent. -/
  | missingField (name : String)
  /-- A member that the shape knows is present twice. -/
  | duplicateField (name : String)
  /-- A list stops before all that must be present is. -/
  | tooShort (length : Nat) (expected : String) (size : Nat)
  /-- A list goes on after all that the shape knows. -/
  | tooLong (length : Nat) (size : Nat)
  /-- A name that is none of the given ones. -/
  | unknownChoice (found : String) (known : List String)
  deriving DecidableEq

namespace Misfit

private def elements (size : Nat) : String :=
  toString size ++ (if size = 1 then " element" else " elements")

private def choices (known : List String) : String :=
  match known.map fun name => "`" ++ name ++ "`" with
  | [one] => one
  | [one, other] => one ++ " or " ++ other
  | names => "one of " ++ ", ".intercalate names

/-- The wording for a list that goes on, in a document read as a whole. -/
def fewer (_size : Nat) : String := "fewer elements in array"

/-- The wording for a list that goes on, in an element of a sequence. -/
def exactly (size : Nat) : String := elements size ++ " in sequence"

/-- The wording of a misfit, given the wording for a list that goes on. -/
def message (surplus : Nat → String) : Misfit → String
  | wrongType found expected => "invalid type: " ++ found.message ++ ", expected " ++ expected
  | missingField name => "missing field `" ++ name ++ "`"
  | duplicateField name => "duplicate field `" ++ name ++ "`"
  | tooShort length expected size =>
    "invalid length " ++ toString length ++ ", expected " ++ expected ++ " with " ++ elements size
  | tooLong length size => "invalid length " ++ toString length ++ ", expected " ++ surplus size
  | unknownChoice found known => "unknown variant `" ++ found ++ "`, expected " ++ choices known

end Misfit

/-- A place of a text: its line, and the bytes of that line before it. -/
structure TextPosition where
  line : Nat
  column : Nat
  deriving DecidableEq

/-- Why a text is not read. -/
inductive TextFault where
  | malformed (fault : SyntaxFault)
  | misfit (misfit : Misfit)
  deriving DecidableEq

/-- Why and where a text is not read. -/
structure TextError where
  fault : TextFault
  position : TextPosition
  deriving DecidableEq

/-- The wording of a fault in a text. -/
def TextFault.message : TextFault → String
  | malformed fault => fault.message
  | misfit m => m.message Misfit.exactly

/-- The wording of an error in a text. -/
def TextError.message (e : TextError) : String :=
  e.fault.message ++ " at line " ++ toString e.position.line ++ " column " ++ toString e.position.column

end AudioGraph
