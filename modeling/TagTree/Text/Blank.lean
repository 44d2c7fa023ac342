import TagTree.Text.Ranges

/-!
# Blank characters

White space in the sense of Unicode, together with the four information separators. Zero-width
characters and the byte order mark are not blank.
-/

namespace TagTree.Text

/-- The code points of blank characters, as ascending runs. -/
def blankRanges : List (Nat × Nat) :=
  [ (0x09, 5), (0x1c, 5), (0x85, 1), (0xa0, 1), (0x1680, 1), (0x2000, 11), (0x2028, 2), (0x202f, 1),
    (0x205f, 1), (0x3000, 1) ]

/-- White space of any script. -/
def isBlank (c : Char) : Bool :=
  inRanges blankRanges c

/-- The characters left after blanks are removed from both ends. -/
def trimChars (cs : List Char) : List Char :=
  ((cs.dropWhile isBlank).reverse.dropWhile isBlank).reverse

/-- The text without the blanks at its ends. -/
def trim (text : String) : String :=
  String.ofList (trimChars text.toList)

end TagTree.Text
