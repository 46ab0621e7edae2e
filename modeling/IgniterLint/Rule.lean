/-
This file holds rules and the checks that the library brings along. A rule looks at the text of a
document and reports findings; it says itself to which documents it applies, and the rules of the
library apply to those that play the parts they target. Four rules stand by default: controllers and
models extend their base classes, loaded models are known to the registry, and models build their
queries instead of writing them out.
-/

import IgniterLint.Diagnostic
import IgniterLint.Fault
import IgniterLint.Registry
import IgniterLint.Roles
import IgniterLint.Source.ClassDeclaration
import IgniterLint.Source.QuotedCall
import IgniterLint.Template

namespace IgniterLint

/-- One thing that a rule has to say, about a stretch of the text. -/
structure Finding where
  span : Span
  message : Text
  severity : Severity
  spec : Option Spec
deriving DecidableEq, Repr

/-- A finding of the kind that the spec describes, with a message of its own. -/
def Finding.ofSpec (spec : Spec) (span : Span) (message : Text) : Finding :=
  ⟨span, message, spec.severity, some spec⟩

/-- A check with the id it signs by. The label says what kind of rule it is. -/
structure Rule where
  label : String
  id : String
  /-- whether the rule applies to documents that play these parts -/
  appliesTo : Roles → Bool
  check : Text → Except Fault (List Finding)

namespace Rule

/-! ### Checks -/

/-- The text has to say somewhere that it extends the base class. If it does not, the first class
declaration is reported. -/
def checkInheritance (base : Text) (spec : Spec) (text : Text) : List Finding :=
  if Text.occursIn ("extends ".toList ++ base) text then []
  else [Finding.ofSpec spec (ClassDeclaration.find text) spec.message]

/-- The finding about one load of a model. Its message is the spec's template filled with the name
that the call gives. -/
def reportModelLoad (memory : Nat) (spec : Spec) (call : QuotedCall) : Except Fault Finding :=
  match Template.fill memory call.argument spec.message with
  | .ok message => .ok (Finding.ofSpec spec call.span message)
  | .error fault => .error (.template fault)

/-- Every load of a model that is not known to exist is reported. What answers for the models may be
any function of their names, and the messages may have fields as wide as there is memory for. -/
def checkModelLoads (memory : Nat) (lookup : Text → Lookup) (spec : Spec) (text : Text) :
    Except Fault (List Finding) :=
  ((QuotedCall.findAll QuotedCall.modelLoad text).filter fun call =>
    !(lookup call.argument).exists).mapM (reportModelLoad memory spec)

/-- Every query written out by hand is reported. -/
def checkDirectQueries (spec : Spec) (text : Text) : List Finding :=
  (QuotedCall.findAll QuotedCall.directQuery text).map fun call =>
    Finding.ofSpec spec call.span spec.message

/-! ### Rules -/

/-- A rule that asks for a base class, of documents that play every part it targets. -/
def inheritance (label id : String) (target : Roles) (base : Text) (spec : Spec) : Rule where
  label := label
  id := id
  appliesTo roles := roles.includes target
  check text := .ok (checkInheritance base spec text)

/-- A rule that asks for loaded models to be known. -/
def modelLoads (memory : Nat) (id : String) (target : Roles) (registry : Registry) (spec : Spec) :
    Rule where
  label := "ModelLoadExistenceRule"
  id := id
  appliesTo roles := roles.includes target
  check := checkModelLoads memory registry.lookup spec

/-- A rule against queries written out by hand. -/
def directQueries (id : String) (target : Roles) (spec : Spec) : Rule where
  label := "DirectQueryStyleRule"
  id := id
  appliesTo roles := roles.includes target
  check text := .ok (checkDirectQueries spec text)

/-- The base class of controllers. -/
def controllerBase : Text := "CI_Controller".toList

/-- The base class of models. -/
def modelBase : Text := "CI_Model".toList

/-- Controllers extend their base class. -/
def controllerInheritance : Rule :=
  inheritance "ControllerInheritanceRule" "ControllerInheritanceRule" .controllerOnly
    controllerBase .controllerMissingBaseClass

/-- Models extend their base class. -/
def modelInheritance : Rule :=
  inheritance "ModelInheritanceRule" "ModelInheritanceRule" .modelOnly modelBase
    .modelMissingBaseClass

/-- Models that a controller loads are known to the registry. No field of the message has a width,
so no memory is set aside for one. -/
def modelLoadExistence (registry : Registry) : Rule :=
  modelLoads 0 "ModelLoadExistenceRule" .controllerOnly registry .modelMayNotExist

/-- Models build their queries. -/
def directQueryStyle : Rule := directQueries "DirectQueryStyleRule" .modelOnly .directQuery

/-- The rules that stand by default: those for controllers, then those for models. -/
def defaults (registry : Registry) : List Rule :=
  [controllerInheritance, modelLoadExistence registry, modelInheritance, directQueryStyle]

end Rule

end IgniterLint
