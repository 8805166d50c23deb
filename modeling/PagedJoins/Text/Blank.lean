import PagedJoins.Text.CharTable

/-!
# Blank text

White space is the `White_Space` property of Unicode, which is wider than the
blanks of ASCII. A text is blank when it holds nothing else, and trimming drops
white space from both ends and nowhere else.
-/

namespace PagedJoins.Text

/-- The characters with the property `White_Space`. -/
def whiteSpace : CharTable where
  ranges :=
    [(0x9, 0xD), (0x20, 0x20), (0x85, 0x85), (0xA0, 0xA0), (0x1680, 0x1680),
      (0x2000, 0x200A), (0x2028, 0x2029), (0x202F, 0x202F), (0x205F, 0x205F),
      (0x3000, 0x3000)]

/-- Does the text hold nothing but white space? -/
def isBlank (text : String) : Bool :=
  text.toList.all whiteSpace.contains

/-- The characters without the white space at either end. -/
def trimChars (chars : List Char) : List Char :=
  ((chars.dropWhile whiteSpace.contains).reverse.dropWhile whiteSpace.contains).reverse

end PagedJoins.Text
