/-
This file holds diagnostics and the reports made from them. A diagnostic is a message at a place in
a document, graded, and signed by the rule that raised it. A spec is what a rule knows about its
diagnostics before it has seen any text: a code, a message or a template for one, and advice.
-/

import IgniterLint.Severity
import IgniterLint.Text.Position

namespace IgniterLint

/-- What all diagnostics of one kind have in common. -/
structure Spec where
  code : String
  message : Text
  hint : Option String
  severity : Severity
  category : Option String
deriving DecidableEq, Repr

/-- A message about a stretch of a document. -/
structure Diagnostic where
  start : Position
  stop : Position
  message : Text
  severity : Severity
  ruleId : String
  code : Option String
  hint : Option String
  category : Option String
deriving DecidableEq, Repr

namespace Spec

/-- A controller that does not extend the controllers' base class. -/
def controllerMissingBaseClass : Spec where
  code := "CI3_CONTROLLER_MISSING_BASE_CLASS"
  message := "Controller should extend CI_Controller".toList
  hint := some "Declare the controller as `class Name extends CI_Controller`."
  severity := .warning
  category := some "inheritance"

/-- A model that does not extend the models' base class. -/
def modelMissingBaseClass : Spec where
  code := "CI3_MODEL_MISSING_BASE_CLASS"
  message := "Model should extend CI_Model".toList
  hint := some "Declare the model as `class Name extends CI_Model`."
  severity := .warning
  category := some "inheritance"

/-- A loaded model that nobody knows. The message is a template for the model's name. -/
def modelMayNotExist : Spec where
  code := "CI3_MODEL_MAY_NOT_EXIST"
  message := "Model '\x7bname\x7d' might not exist".toList
  hint := some "Check that application/models contains a matching model file."
  severity := .warning
  category := some "reference"

/-- A query written out by hand. -/
def directQuery : Spec where
  code := "CI3_DIRECT_QUERY"
  message :=
    "Consider using Query Builder methods instead of direct queries for better security".toList
  hint := some "Use `$this->db->get()`, `where()` and friends, or bind parameters."
  severity := .information
  category := some "style"

end Spec

namespace Diagnostic

/-- Whether any of the diagnostics is an error. -/
def hasErrors (diagnostics : List Diagnostic) : Bool :=
  diagnostics.any fun diagnostic => diagnostic.severity == .error

/-- How many diagnostics there are of each grade, the most serious first. -/
def countBySeverity (diagnostics : List Diagnostic) : List (Severity × Nat) :=
  Severity.all.map fun severity =>
    (severity, diagnostics.countP fun diagnostic => diagnostic.severity == severity)

/-- The line that reports a diagnostic: path, line and column counted from one, grade, rule and
message. -/
def format (path : Text) (diagnostic : Diagnostic) : Text :=
  path ++ ":".toList ++ diagnostic.start.display ++ ": ".toList ++ diagnostic.severity.word ++
    " [".toList ++ diagnostic.ruleId.toList ++ "] ".toList ++ diagnostic.message

/-- The lines that report diagnostics of any origin, whose positions may be too long to be written
out. -/
def report (path : Text) (diagnostics : List Diagnostic) : Except NumeralFault (List Text) :=
  diagnostics.mapM fun diagnostic =>
    if diagnostic.start.isShort then .ok (diagnostic.format path) else .error .tooLong

end Diagnostic

end IgniterLint
