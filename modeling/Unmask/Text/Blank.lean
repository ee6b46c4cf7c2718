import Unmask.Text.CodeSet
/-!
# White space

`isBlank` is the `White_Space` property of the Unicode Character Database, and `trim` drops it from
both ends of a text.
-/

namespace Unmask.Text

/-- The white-space code points. -/
def blanks : CodeSet where
  spans := [
    (0x9, 0xD), (0x20, 0x20), (0x85, 0x85), (0xA0, 0xA0), (0x1680, 0x1680),
    (0x2000, 0x200A), (0x2028, 0x2029), (0x202F, 0x202F), (0x205F, 0x205F), (0x3000, 0x3000)]

/-- Whether a character is white space. -/
def isBlank (c : Char) : Bool := blanks.contains c

/-- A text without the white space at its ends. -/
def trim (s : List Char) : List Char :=
  ((s.dropWhile isBlank).reverse.dropWhile isBlank).reverse

end Unmask.Text
