/-
  ObjectStream.Text.Blank

  White space in the sense of Unicode, and texts without it at their ends.
-/
import ObjectStream.Text.CodePoints

namespace ObjectStream.Blank

/-- The code points that are white space. -/
def points : CodePoints :=
  [(0x9, 0xD), (0x20, 0x20), (0x85, 0x85), (0xA0, 0xA0), (0x1680, 0x1680), (0x2000, 0x200A),
    (0x2028, 0x2029), (0x202F, 0x202F), (0x205F, 0x205F), (0x3000, 0x3000)]

/-- Whether a character is white space. -/
def isBlank (c : Char) : Bool := points.contains c

/-- The characters without white space at either end. -/
def trim (text : List Char) : List Char :=
  ((text.dropWhile isBlank).reverse.dropWhile isBlank).reverse

end ObjectStream.Blank
