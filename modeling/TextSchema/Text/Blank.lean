import TextSchema.Text.RangeTable

/-!
# Blank characters

The Unicode property `White_Space`, and the removal of blanks at both ends of
a text. The set is larger than the blanks of ASCII: it has the no-break space,
the ideographic space and the line and paragraph separators, but not the
zero-width space.
-/

set_option autoImplicit false

namespace TextSchema.Text

/-- The code points with the property `White_Space`. -/
def blankRanges : RangeTable := [
  (0x0009, 0x000D), (0x0020, 0x0020), (0x0085, 0x0085), (0x00A0, 0x00A0), (0x1680, 0x1680),
  (0x2000, 0x200A), (0x2028, 0x2029), (0x202F, 0x202F), (0x205F, 0x205F), (0x3000, 0x3000)]

def isBlank (char : Char) : Bool :=
  blankRanges.contains char.toNat

/-- A text without the blanks at its two ends. Blanks inside stay. -/
def trimBlanks (text : List Char) : List Char :=
  ((text.dropWhile isBlank).reverse.dropWhile isBlank).reverse

end TextSchema.Text
