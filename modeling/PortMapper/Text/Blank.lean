/-!
# Blank characters

The characters that Unicode counts as white space, and texts without those
at their ends.
-/

namespace PortMapper

/-- Whether a character is white space. -/
def isWhiteSpace (c : Char) : Bool :=
  c.isWhitespace || c.val == 0x0b || c.val == 0x0c || c.val == 0x85 || c.val == 0xa0 ||
    c.val == 0x1680 || (0x2000 ≤ c.val && c.val ≤ 0x200a) || c.val == 0x2028 || c.val == 0x2029 ||
    c.val == 0x202f || c.val == 0x205f || c.val == 0x3000

/-- A text without the white space at its ends. -/
def trim (cs : List Char) : List Char :=
  ((cs.dropWhile isWhiteSpace).reverse.dropWhile isWhiteSpace).reverse

end PortMapper
