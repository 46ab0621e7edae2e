/-
This file writes a text between quotation marks, so that it can be told apart from the words around
it and read on one line. Single marks are used unless the text itself has one and has no double
mark. Inside, the mark and the backslash are escaped, tabs and line ends have letters of their own,
and a character that cannot stand for itself is written by its code.
-/

import IgniterLint.Text.Printable

namespace IgniterLint.Text

/-- The hexadecimal numeral of a code, with zeros in front up to the width. -/
def hexadecimal (width code : Nat) : Text :=
  let digits := Nat.toDigits 16 code
  List.replicate (width - digits.length) '0' ++ digits

/-- A character by its code: two digits, four or eight, the fewest that hold it. -/
def codeEscape (c : Char) : Text :=
  if c.toNat < 0x100 then "\\x".toList ++ hexadecimal 2 c.toNat
  else if c.toNat < 0x10000 then "\\u".toList ++ hexadecimal 4 c.toNat
  else "\\U".toList ++ hexadecimal 8 c.toNat

/-- One character inside quotation marks. Printable characters stand for themselves. -/
def escapeChar (mark c : Char) : Text :=
  if c = mark ∨ c = '\\' then ['\\', c]
  else if c = '\t' then "\\t".toList
  else if c = '\n' then "\\n".toList
  else if c = '\r' then "\\r".toList
  else if isPrintable c then [c]
  else codeEscape c

/-- The quotation mark for a text. -/
def quotationMark (text : Text) : Char :=
  if text.contains '\x27' && !text.contains '\x22' then '\x22' else '\x27'

/-- The text between quotation marks. -/
def quoted (text : Text) : Text :=
  let mark := quotationMark text
  mark :: text.flatMap (escapeChar mark) ++ [mark]

/-- The text with every character outside ASCII written by its code. -/
def asciiOnly (text : Text) : Text :=
  text.flatMap fun c => if c.toNat < 128 then [c] else codeEscape c

end IgniterLint.Text
