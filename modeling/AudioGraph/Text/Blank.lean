/-!
# Blank text

A text is blank when it holds white space only.  White space is the Unicode property of that name, which neither the
zero-width space nor the byte order mark has.
-/

namespace AudioGraph

/-- Whether a character is white space. -/
def isBlankChar (c : Char) : Bool :=
  let n := c.toNat
  (0x09 ≤ n && n ≤ 0x0D) || n == 0x20 || n == 0x85 || n == 0xA0 || n == 0x1680 || (0x2000 ≤ n && n ≤ 0x200A) ||
    n == 0x2028 || n == 0x2029 || n == 0x202F || n == 0x205F || n == 0x3000

/-- Whether a text holds white space only. -/
def isBlank (s : String) : Bool := s.toList.all isBlankChar

end AudioGraph
