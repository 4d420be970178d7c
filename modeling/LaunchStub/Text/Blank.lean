import LaunchStub.Text.CharRanges

/-!
# Blanks

The white space of any script, and texts without it at their ends.

## Honest scope

The ranges are the characters that the character standard has as white space. They are looked up
where a journal's filter is read, and nowhere else.
-/

namespace LaunchStub.Text

/-- White space. -/
def blankRanges : CharRanges :=
  [(0x0009, 0x000d), (0x0020, 0x0020), (0x0085, 0x0085), (0x00a0, 0x00a0), (0x1680, 0x1680),
   (0x2000, 0x200a), (0x2028, 0x2029), (0x202f, 0x202f), (0x205f, 0x205f), (0x3000, 0x3000)]

/-- Is the character white space? -/
def isBlank (c : Char) : Bool := blankRanges.holds c

/-- A text without the blanks at its start and at its end. -/
def trimmed (text : List Char) : List Char :=
  ((text.dropWhile isBlank).reverse.dropWhile isBlank).reverse

end LaunchStub.Text
