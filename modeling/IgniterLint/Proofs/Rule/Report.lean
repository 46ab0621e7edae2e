/-
This file says what a run of rules returns when nothing goes wrong. A rule is sound on a text when
its check returns and every span it reports lies in the text; such a rule reports its findings one
by one, each placed by line and column. A run of sound rules is the reports of those that apply, one
after the other.
-/

import IgniterLint.Proofs.Except
import IgniterLint.Proofs.Text.LineTable
import IgniterLint.Rule.Run

namespace IgniterLint

/-- The diagnostic of a finding that lies in the text. -/
def Finding.placed (ruleId : String) (text : Text) (finding : Finding) : Diagnostic where
  start := text.positionOf finding.span.start
  stop := text.positionOf finding.span.stop
  message := finding.message
  severity := finding.severity
  ruleId := ruleId
  code := finding.spec.map (·.code)
  hint := finding.spec.bind (·.hint)
  category := finding.spec.bind (·.category)

theorem Finding.toDiagnostic_eq (ruleId : String) (text : Text) (finding : Finding)
    (inside : finding.span.stop ≤ text.length) :
    finding.toDiagnostic ruleId text = .ok (finding.placed ruleId text) := by
  rw [toDiagnostic, Span.positionsIn_eq _ _ inside]
  rfl

namespace Rule

/-- The check returns the findings, and all of them lie in the text. -/
structure Finds (rule : Rule) (text : Text) (findings : List Finding) : Prop where
  returned : rule.check text = .ok findings
  inside : ∀ finding ∈ findings, finding.span.stop ≤ text.length

/-- The rule has findings on the text, and all of them lie in it. -/
def SoundOn (rule : Rule) (text : Text) : Prop := ∃ findings, rule.Finds text findings

/-- The findings of a rule, none if its check does not return. -/
def findings (rule : Rule) (text : Text) : List Finding :=
  match rule.check text with
  | .ok findings => findings
  | .error _ => []

/-- The findings of a rule as diagnostics. -/
def report (rule : Rule) (text : Text) : List Diagnostic :=
  (rule.findings text).map (Finding.placed rule.id text)

theorem Finds.findings_eq {rule : Rule} {text : Text} {findings : List Finding}
    (finds : rule.Finds text findings) : rule.findings text = findings := by
  rw [Rule.findings, finds.returned]

theorem ruleId_of_mem_report {rule : Rule} {text : Text} {diagnostic : Diagnostic}
    (member : diagnostic ∈ rule.report text) : diagnostic.ruleId = rule.id := by
  obtain ⟨finding, _, rfl⟩ := List.mem_map.mp member
  rfl

theorem diagnose_eq (rule : Rule) (text : Text) (sound : rule.SoundOn text) :
    rule.diagnose text = .ok (rule.report text) := by
  obtain ⟨findings, finds⟩ := sound
  rw [diagnose, report, finds.findings_eq, finds.returned]
  exact mapM_eq_ok _ _ _ fun finding member =>
    finding.toDiagnostic_eq rule.id text (finds.inside finding member)

/-- The reports of the rules that apply, one after the other. -/
def reportAll (text : Text) (roles : Roles) (rules : List Rule) : List Diagnostic :=
  if roles.isAny then (rules.filter (·.appliesTo roles)).flatMap (·.report text) else []

/-- A run of sound rules returns their reports. -/
theorem runAll_eq (text : Text) (roles : Roles) (rules : List Rule)
    (sound : ∀ rule ∈ rules, rule.SoundOn text) :
    runAll text roles rules = .ok (reportAll text roles rules) := by
  rw [runAll, reportAll]
  split
  · rw [mapM_eq_ok _ (·.report text) _ fun rule member =>
      rule.diagnose_eq text (sound rule (List.mem_of_mem_filter member))]
    rfl
  · rfl

theorem mem_reportAll_iff {text : Text} {roles : Roles} {rules : List Rule}
    {diagnostic : Diagnostic} :
    diagnostic ∈ reportAll text roles rules ↔
      roles.isAny = true ∧ ∃ rule ∈ rules, rule.appliesTo roles = true ∧
        diagnostic ∈ rule.report text := by
  rw [reportAll]
  split
  · next isAny => simp [isAny, and_assoc]
  · next notAny => simp [notAny]

theorem exists_rule_of_mem_reportAll {text : Text} {roles : Roles} {rules : List Rule}
    {diagnostic : Diagnostic} (member : diagnostic ∈ reportAll text roles rules) :
    ∃ rule ∈ rules, diagnostic ∈ rule.report text := by
  obtain ⟨_, rule, stands, _, reported⟩ := mem_reportAll_iff.mp member
  exact ⟨rule, stands, reported⟩

/-! ### The part of one rule in a run -/

theorem reportAll_cons (text : Text) (roles : Roles) (rule : Rule) (rest : List Rule) :
    reportAll text roles (rule :: rest) =
      reportAll text roles [rule] ++ reportAll text roles rest := by
  unfold reportAll
  split
  · rw [← List.flatMap_append, ← List.filter_append, List.singleton_append]
  · rfl

/-- What rules with other ids report is not signed by this one. -/
theorem filter_reportAll_of_ne {text : Text} {roles : Roles} {rules : List Rule} {id : String}
    (other : ∀ rule ∈ rules, rule.id ≠ id) :
    (reportAll text roles rules).filter (fun diagnostic => diagnostic.ruleId = id) = [] := by
  refine List.filter_eq_nil_iff.mpr fun diagnostic member => ?_
  obtain ⟨rule, stands, reported⟩ := exists_rule_of_mem_reportAll member
  rw [ruleId_of_mem_report reported, decide_eq_true_eq]
  exact other rule stands

theorem filter_reportAll_singleton (text : Text) (roles : Roles) (rule : Rule) :
    (reportAll text roles [rule]).filter (fun diagnostic => diagnostic.ruleId = rule.id) =
      reportAll text roles [rule] := by
  refine List.filter_eq_self.mpr fun diagnostic member => ?_
  obtain ⟨same, stands, reported⟩ := exists_rule_of_mem_reportAll member
  rw [ruleId_of_mem_report reported, List.mem_singleton.mp stands, decide_eq_true_eq]

/-- In a run of rules with different ids, the diagnostics that a rule signs are those of its own
run. -/
theorem filter_reportAll {text : Text} {roles : Roles} {rules : List Rule}
    (distinct : rules.Pairwise fun first second => first.id ≠ second.id) {rule : Rule}
    (stands : rule ∈ rules) :
    (reportAll text roles rules).filter (fun diagnostic => diagnostic.ruleId = rule.id) =
      reportAll text roles [rule] := by
  induction rules with
  | nil => exact absurd stands List.not_mem_nil
  | cons first rest inductionHypothesis =>
    obtain ⟨apart, distinctRest⟩ := List.pairwise_cons.mp distinct
    rw [reportAll_cons, List.filter_append]
    rcases List.mem_cons.mp stands with rfl | inRest
    · rw [filter_reportAll_singleton,
        filter_reportAll_of_ne fun later member => (apart later member).symm, List.append_nil]
    · have other : ∀ single ∈ [first], single.id ≠ rule.id := by
        intro single member
        rw [List.mem_singleton.mp member]
        exact apart rule inRest
      rw [filter_reportAll_of_ne other, inductionHypothesis distinctRest inRest, List.nil_append]

end Rule

end IgniterLint
