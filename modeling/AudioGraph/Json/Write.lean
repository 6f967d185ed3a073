import AudioGraph.Json.Basic
import AudioGraph.Decimal.Written

/-!
# Writing a document

`Json.text` writes a document without blanks.  In texts only quotes, backslashes and controls are escaped; a float
always has a decimal or an exponent.
-/

namespace AudioGraph

namespace Json

private def hexDigits (n : Nat) : List Char :=
  let digits := Nat.toDigits 16 n
  List.replicate (4 - digits.length) '0' ++ digits

/-- One character of a text literal. -/
def encodeChar (c : Char) : List Char :=
  if c = '"' then ['\\', '"']
  else if c = '\\' then ['\\', '\\']
  else if c = '\x08' then ['\\', 'b']
  else if c = '\x0c' then ['\\', 'f']
  else if c = '\n' then ['\\', 'n']
  else if c = '\r' then ['\\', 'r']
  else if c = '\t' then ['\\', 't']
  else if c < ' ' then ['\\', 'u'] ++ hexDigits c.toNat
  else [c]

/-- A text literal. -/
def literal (s : String) : String := String.ofList ('"' :: s.toList.flatMap encodeChar ++ ['"'])

/-- The text of a number. -/
def numberText : Number → String
  | .int n => toString n
  | .float x => Decimal.floatText x.val

mutual

/-- The text of a document. -/
def text : Json → String
  | null => "null"
  | bool b => if b then "true" else "false"
  | num n => numberText n
  | str s => literal s
  | arr items => "[" ++ ",".intercalate (itemTexts items) ++ "]"
  | obj members => "\x7b" ++ ",".intercalate (memberTexts members) ++ "\x7d"

/-- The texts of the items of a list. -/
def itemTexts : List Json → List String
  | [] => []
  | j :: rest => text j :: itemTexts rest

/-- The texts of the members of an object. -/
def memberTexts : List (String × Json) → List String
  | [] => []
  | (name, j) :: rest => (literal name ++ ":" ++ text j) :: memberTexts rest

end

end Json

end AudioGraph
