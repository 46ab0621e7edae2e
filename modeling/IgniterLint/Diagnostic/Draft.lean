/-
This file holds drafts: specs, diagnostics and findings as callers write them, with plain integers
for places and plain words for grades. Building a draft checks it piece by piece and stops at the
first piece that is not what it claims to be. A caller's own rule is a list of drafts that are built
each time the rule is asked.
-/

import IgniterLint.Rule

namespace IgniterLint

/-- A spec whose grade is still a word. -/
structure SpecDraft where
  code : String
  message : Text
  hint : Option String
  severity : Text
  category : Option String
deriving DecidableEq, Repr

/-- Builds the spec. -/
def SpecDraft.build (draft : SpecDraft) : Except Fault Spec :=
  match Severity.ofWord draft.severity with
  | .error fault => .error (.severity fault)
  | .ok severity => .ok ⟨draft.code, draft.message, draft.hint, severity, draft.category⟩

/-- A diagnostic whose places are integers and whose grade is still a word. -/
structure DiagnosticDraft where
  start : Int × Int
  stop : Int × Int
  message : Text
  severity : Text
  ruleId : String
  code : Option String
  hint : Option String
  category : Option String
deriving DecidableEq, Repr

/-- Builds the diagnostic: its start, its end, then its grade. -/
def DiagnosticDraft.build (draft : DiagnosticDraft) : Except Fault Diagnostic := do
  let start ← (Position.ofInts draft.start.1 draft.start.2).mapError .position
  let stop ← (Position.ofInts draft.stop.1 draft.stop.2).mapError .position
  let severity ← (Severity.ofWord draft.severity).mapError .severity
  return ⟨start, stop, draft.message, severity, draft.ruleId, draft.code, draft.hint,
    draft.category⟩

/-- A finding whose ends are integers and whose grade is still a word. -/
structure FindingDraft where
  start : Int
  stop : Int
  message : Text
  severity : Text
  spec : Option SpecDraft
deriving DecidableEq, Repr

/-- Builds the finding: its span, its grade, then its spec. -/
def FindingDraft.build (draft : FindingDraft) : Except Fault Finding := do
  let span ← (Span.ofInts draft.start draft.stop).mapError .span
  let severity ← (Severity.ofWord draft.severity).mapError .severity
  let spec ← draft.spec.mapM SpecDraft.build
  return ⟨span, draft.message, severity, spec⟩

/-- A rule that reports the same findings about every text. -/
def Rule.fixed (id : String) (target : Roles) (findings : List FindingDraft) : Rule where
  label := "StaticRule"
  id := id
  appliesTo roles := roles.includes target
  check _ := findings.mapM FindingDraft.build

end IgniterLint
