/-
This file runs rules over a text. Each rule that applies reports its findings, every finding is
placed by line and column, and the diagnostics come in the order of the rules and, within a rule, of
its findings. A document that plays no part is not looked at.
-/

import IgniterLint.Rule

namespace IgniterLint

/-- The diagnostic that a finding becomes: placed in the text and signed by its rule. -/
def Finding.toDiagnostic (ruleId : String) (text : Text) (finding : Finding) :
    Except Fault Diagnostic :=
  match finding.span.positionsIn text with
  | .error fault => .error (.position fault)
  | .ok (start, stop) => .ok {
      start := start
      stop := stop
      message := finding.message
      severity := finding.severity
      ruleId := ruleId
      code := finding.spec.map (·.code)
      hint := finding.spec.bind (·.hint)
      category := finding.spec.bind (·.category) }

namespace Rule

/-- The diagnostics of one rule. -/
def diagnose (rule : Rule) (text : Text) : Except Fault (List Diagnostic) := do
  let findings ← rule.check text
  findings.mapM (Finding.toDiagnostic rule.id text)

/-- The diagnostics of the rules that apply. The first fault ends the run. -/
def runAll (text : Text) (roles : Roles) (rules : List Rule) : Except Fault (List Diagnostic) :=
  if roles.isAny then do
    let reports ← (rules.filter (·.appliesTo roles)).mapM (·.diagnose text)
    return reports.flatten
  else .ok []

end Rule

end IgniterLint
