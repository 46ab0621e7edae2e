/-
This file gathers what can go wrong while documents are checked: values that are not what they
claim to be, templates that cannot be filled, and rules that cannot stand in one table.
-/

import IgniterLint.Severity
import IgniterLint.Template.Fault
import IgniterLint.Text.Position

namespace IgniterLint

/-- Why a check came to nothing. -/
inductive Fault where
  | span (cause : SpanFault)
  | position (cause : PositionFault)
  | numeral (cause : NumeralFault)
  | severity (cause : UnknownSeverity)
  | template (cause : TemplateFault)
  /-- a rule without an id; it is named by its label -/
  | emptyRuleId (label : String)
  /-- a rule with the id of an earlier one -/
  | duplicateRuleId (id : String)
  /-- rules given together with a registry for the rules that stand by default -/
  | rulesAndRegistry
deriving DecidableEq, Repr

namespace Fault

/-- The wording of each fault. -/
def message : Fault → Text
  | span cause => cause.message
  | position cause => cause.message
  | numeral cause => cause.message
  | severity cause => cause.message
  | template cause => cause.message
  | emptyRuleId label => "Rule `".toList ++ label.toList ++ "` has an empty rule id.".toList
  | duplicateRuleId id =>
    "Rule id `".toList ++ id.toList ++ "` is registered more than once.".toList
  | rulesAndRegistry => "Pass either rules or model_registry, not both".toList

end Fault

end IgniterLint
