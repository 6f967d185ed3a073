import AudioGraph.Json.Cursor

/-!
# Reading text literals

A text literal stands in quotes.  A backslash starts an escape: a letter, or `u` with four hexadecimal digits that give
a UTF-16 unit, two of which make one character beyond the basic plane.  No control may stand in a literal.
-/

namespace AudioGraph

/-- The value of a hexadecimal digit. -/
def hexValue? (c : Char) : Option Nat :=
  if '0' ≤ c ∧ c ≤ '9' then some (c.toNat - '0'.toNat)
  else if 'a' ≤ c ∧ c ≤ 'f' then some (c.toNat - 'a'.toNat + 10)
  else if 'A' ≤ c ∧ c ≤ 'F' then some (c.toNat - 'A'.toNat + 10)
  else none

/-- The value of hexadecimal digits. -/
def hexNumber? (digits : List Char) : Option Nat :=
  digits.foldlM (fun total c => (hexValue? c).map (total * 16 + ·)) 0

/-- The character that a letter behind a backslash stands for. -/
def escapedChar? : Char → Option Char
  | '"' => some '"'
  | '\\' => some '\\'
  | '/' => some '/'
  | 'b' => some '\x08'
  | 'f' => some '\x0c'
  | 'n' => some '\n'
  | 'r' => some '\r'
  | 't' => some '\t'
  | _ => none

/-- Whether a UTF-16 unit is the first of two. -/
def isFirstSurrogate (unit : Nat) : Bool := 0xD800 ≤ unit && unit ≤ 0xDBFF

/-- Whether a UTF-16 unit is the second of two. -/
def isSecondSurrogate (unit : Nat) : Bool := 0xDC00 ≤ unit && unit ≤ 0xDFFF

/-- The character of two UTF-16 units. -/
def surrogatePair (first second : Nat) : Char :=
  Char.ofNat (0x10000 + (first - 0xD800) * 0x400 + (second - 0xDC00))

/-- Whether a character must not stand in a text literal. -/
def isControl (c : Char) : Bool := c < ' '

namespace Reader

/-- Takes four bytes, which must be hexadecimal digits. -/
def hexUnit : Reader Nat := do
  let cursor ← get
  match Cursor.bytesAhead? 4 cursor.position cursor.rest with
  | none => failAt cursor.textEnd (.malformed .endInString)
  | some position =>
    match hexNumber? (cursor.rest.take 4) with
    | none => failAt position (.malformed .invalidEscape)
    | some unit =>
      set { cursor with rest := cursor.rest.drop 4, position }
      return unit

/-- Takes a character that announces the second half of a pair. -/
def secondHalf (expected : Char) : Reader Unit := do
  match ← peek? with
  | none => failHere .endInString
  | some c => if c = expected then skip else failNext .halfSurrogatePair

/-- Reads the character of a hexadecimal escape, behind its `u`. -/
def hexEscape : Reader Char := do
  let unit ← hexUnit
  if isSecondSurrogate unit then failHere .loneSurrogate
  else if isFirstSurrogate unit then do
    secondHalf '\\'
    secondHalf 'u'
    let second ← hexUnit
    if isSecondSurrogate second then return surrogatePair unit second else failHere .loneSurrogate
  else return Char.ofNat unit

/-- Reads the character of an escape, behind its backslash. -/
def escape : Reader Char := do
  match ← peek? with
  | none => failHere .endInString
  | some 'u' =>
    skip
    hexEscape
  | some c =>
    match escapedChar? c with
    | some e =>
      skip
      return e
    | none => failNext .invalidEscape

/-- Whether a character stands for itself in a text literal. -/
def isPlain (c : Char) : Bool := !(c == '"' || c == '\\' || isControl c)

/-- Reads the runs of a literal up to its closing quote, the last run first. -/
def textRuns : Nat → List (List Char) → Reader (List (List Char))
  | 0, _ => failHere .endInString
  | steps + 1, runs => do
    let run ← takeClass isPlain
    match ← peek? with
    | none => failHere .endInString
    | some '"' =>
      skip
      return run :: runs
    | some '\\' =>
      skip
      let c ← escape
      textRuns steps ([c] :: run :: runs)
    | some _ => failNext .controlCharacter

/-- Reads a text literal, behind its opening quote. -/
def textLiteral : Reader String := do
  let runs ← textRuns (← limit) []
  return String.ofList runs.reverse.flatten

end Reader

end AudioGraph
