/-
This file checks whole documents. The path of a document decides which rules look at it, and the
result keeps the document, the parts it plays and the diagnostics together.
-/

import IgniterLint.Document
import IgniterLint.Rule.Run
import IgniterLint.Rule.Table

namespace IgniterLint

/-- What came out of checking a document. -/
structure Analysis where
  document : Document
  roles : Roles
  diagnostics : List Diagnostic
deriving DecidableEq, Repr

namespace Analysis

/-- Whether the check found errors. -/
def hasErrors (analysis : Analysis) : Bool := Diagnostic.hasErrors analysis.diagnostics

/-- The diagnostics as lines of a report. -/
def report (analysis : Analysis) : List Text :=
  analysis.diagnostics.map (Diagnostic.format analysis.document.identity)

/-- Checks a document with the given rules, or with those that stand by default. -/
def ofDocument (document : Document) (rules : Option (List Rule)) (registry : Option Registry) :
    Except Fault Analysis := do
  let rules ← Rule.resolve rules registry
  let roles := Roles.ofPath document.identity
  let diagnostics ← Rule.runAll document.text roles rules
  return ⟨document, roles, diagnostics⟩

/-- Checks a text as if it were the source file at the path. -/
def ofText (text path : Text) (rules : Option (List Rule)) (registry : Option Registry) :
    Except Fault Analysis :=
  ofDocument ⟨path, text, Document.sourceLanguage⟩ rules registry

end Analysis

end IgniterLint
