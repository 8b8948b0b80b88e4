/-!
White space, as the Unicode property of this name has it.
-/

namespace ResilientChannel.Text

/-- White space: the blanks and line ends of ASCII and Latin-1, the Ogham space, the typographic
spaces, the two separators, and the mathematical and ideographic spaces. -/
def isSpace (c : Char) : Bool :=
  let n := c.toNat
  (0x9 ≤ n && n ≤ 0xd) || n == 0x20 || n == 0x85 || n == 0xa0 || n == 0x1680 ||
    (0x2000 ≤ n && n ≤ 0x200a) || n == 0x2028 || n == 0x2029 || n == 0x202f || n == 0x205f ||
    n == 0x3000

/-- A text of nothing but white space. -/
def isBlank (s : String) : Bool := s.toList.all isSpace

end ResilientChannel.Text
