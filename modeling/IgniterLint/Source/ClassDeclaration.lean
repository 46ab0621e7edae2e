/-
This file finds the first class declaration of a text: the keyword, blanks, and a name of ASCII
letters, digits and underscores. The keyword is not required to stand on its own, and the blanks
and the name reach as far as they can.
-/

import IgniterLint.Text.Blank
import IgniterLint.Text.Span

namespace IgniterLint.ClassDeclaration

/-- The word that announces a class. -/
def keyword : Text := "class".toList

/-- Whether the character may stand in the name of a class. -/
def isNameChar (c : Char) : Bool := c.isAlphanum || c == '_'

/-- The length of a declaration that starts at the front of the text. -/
def lengthAt? (text : Text) : Option Nat :=
  match Text.after? keyword text with
  | none => none
  | some rest =>
    let blanks := rest.takeWhile Text.isBlank
    let name := (rest.dropWhile Text.isBlank).takeWhile isNameChar
    if blanks.isEmpty || name.isEmpty then none
    else some (keyword.length + blanks.length + name.length)

/-- The first declaration in what remains of a text from `offset` on. -/
def findFrom? : (offset : Nat) → Text → Option Span
  | _, [] => none
  | offset, c :: rest =>
    match lengthAt? (c :: rest) with
    | some length => some (Span.ofLength offset length)
    | none => findFrom? (offset + 1) rest

/-- The first declaration of a text; without one, nothing at the start of the text. -/
def find (text : Text) : Span := (findFrom? 0 text).getD (Span.empty 0)

end IgniterLint.ClassDeclaration
