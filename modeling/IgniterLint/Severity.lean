/-
This file holds the four grades of a diagnostic. Nothing depends on the grade except the count of
errors, so it is a word to show more than a decision.
-/

import IgniterLint.Text.Quoted

namespace IgniterLint

/-- How serious a diagnostic is. -/
inductive Severity where
  | error
  | warning
  | information
  | hint
deriving DecidableEq, Repr

/-- A word that names no grade. -/
structure UnknownSeverity where
  word : Text
deriving DecidableEq, Repr

/-- The wording of the fault. -/
def UnknownSeverity.message (fault : UnknownSeverity) : Text :=
  fault.word.quoted ++ " is not a valid Severity".toList

namespace Severity

/-- The word for a grade. -/
def word : Severity → Text
  | error => "error".toList
  | warning => "warning".toList
  | information => "information".toList
  | hint => "hint".toList

/-- All grades, the most serious first. -/
def all : List Severity := [error, warning, information, hint]

/-- The grade that a word names. -/
def ofWord (word : Text) : Except UnknownSeverity Severity :=
  match all.find? fun severity => severity.word == word with
  | some severity => .ok severity
  | none => .error ⟨word⟩

end Severity

end IgniterLint
