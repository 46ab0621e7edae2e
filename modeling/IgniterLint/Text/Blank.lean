/-
This file says which characters are blank: the spaces and the separators of lines, paragraphs and
fields, across the whole character set. Blanks are what may stand between the keyword and the name
of a class, and what is cut from both ends of a model's name.
-/

import IgniterLint.Text

namespace IgniterLint.Text

/-- The codes of the blank characters. -/
def blankRanges : List (Nat × Nat) :=
  [(0x0009, 0x000d), (0x001c, 0x0020), (0x0085, 0x0085), (0x00a0, 0x00a0), (0x1680, 0x1680),
   (0x2000, 0x200a), (0x2028, 0x2029), (0x202f, 0x202f), (0x205f, 0x205f), (0x3000, 0x3000)]

/-- Whether the character is blank. -/
def isBlank (c : Char) : Bool := inRanges blankRanges c

/-- The text without the blanks at its two ends. -/
def trim (text : Text) : Text :=
  ((text.dropWhile isBlank).reverse.dropWhile isBlank).reverse

end IgniterLint.Text
