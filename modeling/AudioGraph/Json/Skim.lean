import AudioGraph.Json.Read

/-!
# Passing over a value

A value that nobody asks for is passed over: its brackets, commas, words, numerals and escapes are checked, but not
how deep it goes, how large its numbers are, or whether its surrogates form pairs.
-/

namespace AudioGraph

namespace Reader

/-- Passes over an escape, behind its backslash. -/
def skimEscape : Reader Unit := do
  match ← peek? with
  | none => failHere .endInString
  | some 'u' =>
    skip
    let _ ← hexUnit
  | some c => if (escapedChar? c).isSome then skip else failNext .invalidEscape

/-- Passes over the rest of a text literal. -/
def skimRuns : Nat → Reader Unit
  | 0 => failHere .endInString
  | steps + 1 => do
    let _ ← takeClass isPlain
    match ← peek? with
    | none => failHere .endInString
    | some '"' => skip
    | some '\\' =>
      skip
      skimEscape
      skimRuns steps
    | some _ => failHere .controlCharacter

/-- Passes over a text literal, behind its opening quote. -/
def skimText : Reader Unit := do
  skimRuns (← limit)

/-- Takes at least one digit. -/
def skimDigits : Reader Unit := do
  let digits ← takeClass Char.isDigit
  if digits.isEmpty then failNext .invalidNumber

/-- Passes over the exponent of a numeral, if there is one. -/
def skimExponent : Reader Unit := do
  let mark ← peek?
  if mark = some 'e' ∨ mark = some 'E' then do
    skip
    let sign ← peek?
    if sign = some '+' ∨ sign = some '-' then skip
    skimDigits

/-- Passes over a numeral. -/
def skimNumber : Reader Unit := do
  if (← peek?) = some '-' then skip
  if (← peek?) = some '0' then do
    skip
    if (← peek?).any Char.isDigit then failNext .invalidNumber
  else skimDigits
  if (← peek?) = some '.' then do
    skip
    skimDigits
  skimExponent

/-- A bracket that is open. -/
inductive Bracket where
  | list
  | object
  deriving DecidableEq

/-- The character that closes a bracket. -/
def Bracket.closing : Bracket → Char
  | list => ']'
  | object => '}'

/-- The fault of a text that ends in a bracket. -/
def Bracket.atEnd : Bracket → SyntaxFault
  | list => .endInList
  | object => .endInObject

/-- The fault of anything else than a comma or the closing character behind an element. -/
def Bracket.expectedComma : Bracket → SyntaxFault
  | list => .expectedCommaOrBracket
  | object => .expectedCommaOrBrace

/-- Passes over the name and the colon of a member. -/
def skimName : Reader Unit := do
  match ← peekPart? with
  | none => failHere .endInObject
  | some '"' =>
    skip
    skimText
    colon
  | some _ => failNext .keyNotText

/-- Takes the brackets that close here, and the comma behind them; returns the brackets that stay open.  A comma may
only stand behind an element. -/
def skimClosings : List Bracket → Bool → Reader (List Bracket)
  | [], _ => return []
  | innermost :: outer, behindElement => do
    match ← peekPart? with
    | none => failHere innermost.atEnd
    | some c =>
      if c = ',' ∧ behindElement then do
        skip
        return innermost :: outer
      else if c = innermost.closing then do
        skip
        skimClosings outer true
      else if behindElement then failNext innermost.expectedComma
      else return innermost :: outer

/-- Passes over values until all open brackets are closed. -/
def skimUntilClosed : Nat → List Bracket → Reader Unit
  | 0, _ => failHere .endInValue
  | steps + 1, brackets => do
    let opened ← skimStart
    match ← skimClosings (opened.toList ++ brackets) opened.isNone with
    | [] => return ()
    | .list :: outer => skimUntilClosed steps (.list :: outer)
    | .object :: outer =>
      skimName
      skimUntilClosed steps (.object :: outer)
where
  /-- Passes over a scalar, or over an opening bracket, which is returned. -/
  skimStart : Reader (Option Bracket) := do
    match ← peekPart? with
    | none => failHere .endInValue
    | some '[' => skip; return some .list
    | some '{' => skip; return some .object
    | some 'n' => word ['n', 'u', 'l', 'l']; return none
    | some 't' => word ['t', 'r', 'u', 'e']; return none
    | some 'f' => word ['f', 'a', 'l', 's', 'e']; return none
    | some '"' => skip; skimText; return none
    | some c =>
      if c = '-' ∨ c.isDigit then do
        skimNumber
        return none
      else failNext .expectedValue

/-- Passes over one value. -/
def skimValue : Reader Unit := do
  skimUntilClosed (← limit) []

end Reader

end AudioGraph
