import AudioGraph.Json.Fault

/-!
# Reading a text character by character

A `Cursor` stands between two characters of a text and knows its place there.  A `Reader` moves a cursor forward, and
stops at the first error.

An error is reported at the cursor (`failHere`) or behind the first byte of the character that follows
(`failNext`); at the end of the text the two are the same.  Blanks between the parts of a document are the space, the
tab and the two line ends.
-/

namespace AudioGraph

/-- A place between two characters of a text.  No loop over the text takes more than `limit` steps. -/
structure Cursor where
  rest : List Char
  position : TextPosition
  limit : Nat

namespace Cursor

/-- The start of a text. -/
def ofString (text : String) : Cursor :=
  let characters := text.toList
  ⟨characters, ⟨1, 0⟩, characters.length + 1⟩

/-- The place behind a character. -/
def after (p : TextPosition) (c : Char) : TextPosition :=
  if c = '\n' then ⟨p.line + 1, 0⟩ else ⟨p.line, p.column + c.utf8Size⟩

/-- The place behind the first byte of the next character. -/
def nextByte (cursor : Cursor) : TextPosition :=
  match cursor.rest with
  | [] => cursor.position
  | '\n' :: _ => ⟨cursor.position.line + 1, 0⟩
  | _ :: _ => ⟨cursor.position.line, cursor.position.column + 1⟩

/-- The place that lies a number of bytes ahead, or nothing if the text has fewer. -/
def bytesAhead? : Nat → TextPosition → List Char → Option TextPosition
  | 0, p, _ => some p
  | _ + 1, _, [] => none
  | n + 1, p, c :: rest =>
    if c.utf8Size ≤ n + 1 then bytesAhead? (n + 1 - c.utf8Size) (after p c) rest
    else some ⟨p.line, p.column + (n + 1)⟩
termination_by n => n
decreasing_by
  have := Char.utf8Size_pos c
  omega

/-- The end of the text. -/
def textEnd (cursor : Cursor) : TextPosition := cursor.rest.foldl after cursor.position

end Cursor

/-- Moves a cursor forward and returns a value, or stops at an error. -/
abbrev Reader := StateT Cursor (Except TextError)

namespace Reader

/-- Stops at a given place. -/
def failAt {α : Type} (position : TextPosition) (fault : TextFault) : Reader α :=
  throw ⟨fault, position⟩

/-- Stops at the cursor. -/
def failHere {α : Type} (fault : SyntaxFault) : Reader α := do
  failAt (← get).position (.malformed fault)

/-- Stops behind the first byte of the next character. -/
def failNext {α : Type} (fault : SyntaxFault) : Reader α := do
  failAt (← get).nextByte (.malformed fault)

/-- Stops at the cursor, because a document does not fit. -/
def misfit {α : Type} (m : Misfit) : Reader α := do
  failAt (← get).position (.misfit m)

/-- The next character, which is not taken. -/
def peek? : Reader (Option Char) := do
  return (← get).rest.head?

/-- Takes the next character. -/
def skip : Reader Unit :=
  modify fun cursor =>
    match cursor.rest with
    | [] => cursor
    | c :: rest => { cursor with rest, position := Cursor.after cursor.position c }

/-- The number of steps that no loop over the text exceeds. -/
def limit : Reader Nat := do
  return (← get).limit

/-- Whether a character may stand between the parts of a document. -/
def isBlank (c : Char) : Bool := c == ' ' || c == '\n' || c == '\t' || c == '\r'

/-- Takes characters of a class, as many as there are, and returns them. -/
def takeClass (inClass : Char → Bool) : Reader (List Char) :=
  modifyGet fun cursor =>
    let taken := cursor.rest.takeWhile inClass
    (taken, { cursor with rest := cursor.rest.dropWhile inClass, position := taken.foldl Cursor.after cursor.position })

/-- Takes blanks, and returns the character behind them, which is not taken. -/
def peekPart? : Reader (Option Char) := do
  let _ ← takeClass isBlank
  peek?

/-- Takes the letters of a word.  The first character that departs from it is an error. -/
def word : List Char → Reader Unit
  | [] => return ()
  | expected :: rest => do
    match ← peek? with
    | none => failHere .endInValue
    | some c => if c = expected then do skip; word rest else failNext .expectedLiteral

/-- Reads a text from its start. -/
def ofText {α : Type} (reader : Reader α) (text : String) : Except TextError α :=
  (·.1) <$> reader (Cursor.ofString text)

end Reader

end AudioGraph
