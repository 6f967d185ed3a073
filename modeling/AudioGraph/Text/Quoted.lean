import AudioGraph.Text.Hidden

/-!
# Quoted text

Names stand in quotes where a message lists several of them.  A quote and a backslash get a backslash, four controls
have a letter, and every other character that does not show by itself is spelled `\u{…}` with its code point in
hexadecimal.
-/

namespace AudioGraph

namespace Quoted

private def hexText (n : Nat) : List Char := Nat.toDigits 16 n

/-- One character inside quotes. -/
def encodeChar (c : Char) : List Char :=
  if c = '"' ∨ c = '\\' then ['\\', c]
  else if c = Char.ofNat 0 then ['\\', '0']
  else if c = '\t' then ['\\', 't']
  else if c = '\n' then ['\\', 'n']
  else if c = '\r' then ['\\', 'r']
  else if ' ' ≤ c ∧ c ≤ '~' then [c]
  else if isHidden c then ['\\', 'u', '{'] ++ hexText c.toNat ++ ['}']
  else [c]

/-- A text in quotes. -/
def text (s : String) : String :=
  String.ofList ('"' :: s.toList.flatMap encodeChar ++ ['"'])

/-- Texts in quotes, separated by commas, in brackets. -/
def list (names : List String) : String :=
  "[" ++ ", ".intercalate (names.map text) ++ "]"

example : list ["it's", "\"\\\n"] = "[\"it's\", \"\\\"\\\\\\n\"]" := by
  decide +kernel

example : text "é\u0301" = "\"é\\u\x7b301\x7d\"" := by
  decide +kernel

end Quoted

end AudioGraph
