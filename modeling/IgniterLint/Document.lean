/-
This file holds documents: one fixed text under the name that its diagnostics are filed by, with
the language that the editor or the file name gives it.
-/

import IgniterLint.Text

namespace IgniterLint

/-- A text to check. -/
structure Document where
  identity : Text
  text : Text
  language : String
deriving DecidableEq, Repr

namespace Document

/-- The language that the rules are about. -/
def sourceLanguage : String := "php"

/-- The language of a file that is not a source file. -/
def plainLanguage : String := "plaintext"

/-- Whether the document is in the language that the rules are about. -/
def isSource (document : Document) : Bool := document.language == sourceLanguage

end Document

end IgniterLint
