/-
This file joins checking and filing. An engine has a sound table of rules; it checks a document by
them and files the diagnostics in the ledger on the desk, if there is one. A document whose check
fails leaves the ledger as it was.
-/

import IgniterLint.Analysis
import IgniterLint.Ledger

namespace IgniterLint

/-- A table of rules, ready to check documents. -/
structure Engine where
  rules : List Rule

namespace Engine

/-- An engine over the given rules, or over those that stand by default. -/
def ofRules (rules : Option (List Rule)) : Except Fault Engine := do
  let rules := rules.getD (Rule.defaults .unaware)
  Rule.validate rules
  return ⟨rules⟩

/-- Sets an engine up at a desk, in whose ledger it is to file. -/
def setUp (rules : Option (List Rule)) : Desk.Action Engine :=
  match ofRules rules with
  | .error fault => throw (.check fault)
  | .ok engine => return engine

/-- The rules that apply to documents that play the given parts. -/
def rulesFor (engine : Engine) (roles : Roles) : List Rule :=
  engine.rules.filter (·.appliesTo roles)

/-- The diagnostics of a document. -/
def diagnose (engine : Engine) (document : Document) : Except Fault (List Diagnostic) :=
  Rule.runAll document.text (Roles.ofPath document.identity) engine.rules

/-- Checks a document and files its diagnostics. -/
def analyze (engine : Engine) (document : Document) : Desk.Action (List Diagnostic) := do
  match engine.diagnose document with
  | .error fault => throw (.check fault)
  | .ok diagnostics =>
    if (← get).ledger.isSome then Desk.replace document.identity diagnostics
    return diagnostics

end Engine

end IgniterLint
