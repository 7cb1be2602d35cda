/-
# Blank characters

The characters that count as white space, and trimming them from the end of a text.
-/

import KeyTree.Text.Spans

namespace KeyTree.Text

/-- The spans of white space: the ASCII blanks, the information separators and the
separator characters of the other scripts. -/
def blankSpans : Spans :=
  [(0x09, 0x0D), (0x1C, 0x20), (0x85, 0x85), (0xA0, 0xA0), (0x1680, 0x1680), (0x2000, 0x200A),
   (0x2028, 0x2029), (0x202F, 0x202F), (0x205F, 0x205F), (0x3000, 0x3000)]

/-- Whether a character is white space. -/
def isBlank (c : Char) : Bool :=
  blankSpans.contains c

/-- The characters without the blanks at their end. -/
def trimEnd (s : List Char) : List Char :=
  (s.reverse.dropWhile isBlank).reverse

end KeyTree.Text
