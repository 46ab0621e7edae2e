/-
This file says when a run of rules fails, and with what. A rule fails on a text if its check does,
or else if a finding of it reaches beyond the text; then the first such finding tells. A run fails
with the first of the rules that apply and fail, and what the rules before it reported is lost. A
rule about loaded models fails only on a load that its registry does not answer for, because no
other message is written.
-/

import IgniterLint.Proofs.Rule.CallReports
import IgniterLint.Proofs.Text.PositionOrder

namespace IgniterLint

/-! ### Findings beyond the text -/

/-- The end of a span that is named when the span reaches beyond a text of this length: its start,
if that is outside already, and else its stop. -/
def Span.endBeyond (span : Span) (length : Nat) : Nat :=
  if length < span.start then span.start else span.stop

theorem Span.positionsIn_of_beyond {span : Span} {text : Text}
    (beyond : text.length < span.stop) :
    span.positionsIn text = .error (.outside (span.endBeyond text.length) text.length) := by
  have stop : (span.start : Int) + span.length = (span.stop : Nat) := by
    exact_mod_cast span.start_add_length
  have lacksStop : ¬ text.HasOffset (span.stop : Nat) := fun has => by
    have := has.2
    omega
  rw [positionsIn, Text.positionsOf_of_nonneg _ (Int.natCast_nonneg span.length), stop, endBeyond]
  split
  · next startBeyond =>
    have lacksStart : ¬ text.HasOffset (span.start : Nat) := fun has => by
      have := has.2
      omega
    rw [Text.positionAt_of_not_hasOffset lacksStart]
    rfl
  · next startInside =>
    have hasStart : text.HasOffset (span.start : Nat) := ⟨by omega, by omega⟩
    rw [Text.positionAt_of_hasOffset hasStart, Text.positionAt_of_not_hasOffset lacksStop]
    rfl

theorem Finding.toDiagnostic_of_beyond {ruleId : String} {text : Text} {finding : Finding}
    (beyond : text.length < finding.span.stop) :
    finding.toDiagnostic ruleId text =
      .error (.position (.outside (finding.span.endBeyond text.length) text.length)) := by
  rw [toDiagnostic, Span.positionsIn_of_beyond beyond]

theorem Finding.exists_toDiagnostic_eq_ok_iff {ruleId : String} {text : Text} {finding : Finding} :
    (∃ diagnostic, finding.toDiagnostic ruleId text = .ok diagnostic) ↔
      finding.span.stop ≤ text.length := by
  constructor
  · rintro ⟨diagnostic, returned⟩
    by_contra beyond
    rw [toDiagnostic_of_beyond (Nat.lt_of_not_le beyond)] at returned
    cases returned
  · exact fun inside => ⟨_, finding.toDiagnostic_eq ruleId text inside⟩

namespace Rule

/-! ### Rules that fail -/

/-- The rule fails on the text, and with what. -/
inductive FailsOn (rule : Rule) (text : Text) : Fault → Prop
  /-- its check fails -/
  | check (fault : Fault) (failed : rule.check text = .error fault) : FailsOn rule text fault
  /-- its check returns, and of the findings this is the first that reaches beyond the text -/
  | beyond (earlier : List Finding) (finding : Finding) (later : List Finding)
    (returned : rule.check text = .ok (earlier ++ finding :: later))
    (inside : ∀ other ∈ earlier, other.span.stop ≤ text.length)
    (beyond : text.length < finding.span.stop) :
    FailsOn rule text (.position (.outside (finding.span.endBeyond text.length) text.length))

theorem diagnose_eq_error_iff {rule : Rule} {text : Text} {fault : Fault} :
    rule.diagnose text = .error fault ↔ rule.FailsOn text fault := by
  rw [diagnose, bind_eq_error_iff]
  constructor
  · rintro (failed | ⟨findings, returned, failed⟩)
    · exact .check fault failed
    · obtain ⟨earlier, finding, later, rfl, returnedEarlier, failed⟩ := mapM_eq_error_iff.mp failed
      have beyond : text.length < finding.span.stop := by
        by_contra within
        rw [finding.toDiagnostic_eq rule.id text (Nat.le_of_not_lt within)] at failed
        cases failed
      rw [Finding.toDiagnostic_of_beyond beyond] at failed
      rw [← Except.error.inj failed]
      refine .beyond earlier finding later returned (fun other member => ?_) beyond
      exact Finding.exists_toDiagnostic_eq_ok_iff.mp (returnedEarlier other member)
  · rintro (⟨_, failed⟩ | ⟨earlier, finding, later, returned, inside, beyond⟩)
    · exact Or.inl failed
    · refine Or.inr ⟨_, returned, mapM_eq_error_iff.mpr ⟨earlier, finding, later, rfl, ?_, ?_⟩⟩
      · exact fun other member =>
          Finding.exists_toDiagnostic_eq_ok_iff.mpr (inside other member)
      · exact Finding.toDiagnostic_of_beyond beyond

/-- A rule reports exactly if it is sound on the text. -/
theorem exists_diagnose_eq_ok_iff {rule : Rule} {text : Text} :
    (∃ diagnostics, rule.diagnose text = .ok diagnostics) ↔ rule.SoundOn text := by
  constructor
  · rintro ⟨diagnostics, returned⟩
    obtain ⟨findings, found, placed⟩ := bind_eq_ok_iff.mp returned
    refine ⟨findings, found, fun finding member => ?_⟩
    obtain ⟨diagnostic, _, here⟩ := exists_result_of_mapM placed member
    exact Finding.exists_toDiagnostic_eq_ok_iff.mp ⟨diagnostic, here⟩
  · exact fun sound => ⟨_, rule.diagnose_eq text sound⟩

/-- A run fails with the first rule that applies and fails. -/
theorem runAll_eq_error_iff {text : Text} {roles : Roles} {rules : List Rule} {fault : Fault} :
    runAll text roles rules = .error fault ↔ roles.isAny = true ∧
      ∃ earlier rule later, rules.filter (·.appliesTo roles) = earlier ++ rule :: later ∧
        (∀ other ∈ earlier, other.SoundOn text) ∧ rule.FailsOn text fault := by
  rw [runAll]
  split
  · next isAny =>
    rw [and_iff_right isAny, bind_eq_error_iff]
    have unfailing : ¬ ∃ reports, (rules.filter (·.appliesTo roles)).mapM (·.diagnose text) =
        .ok reports ∧ (pure reports.flatten : Except Fault (List Diagnostic)) = .error fault := by
      rintro ⟨reports, _, failed⟩
      cases failed
    rw [or_iff_left unfailing, mapM_eq_error_iff]
    simp only [exists_diagnose_eq_ok_iff, diagnose_eq_error_iff]
  · next idle => exact iff_of_false (by simp) fun failed => idle failed.1

/-- What a run returns is all that the rules report. -/
theorem eq_reportAll_of_runAll {text : Text} {roles : Roles} {rules : List Rule}
    {diagnostics : List Diagnostic} (returned : runAll text roles rules = .ok diagnostics) :
    diagnostics = reportAll text roles rules := by
  rw [runAll] at returned
  rw [reportAll]
  split at returned
  · next isAny =>
    obtain ⟨reports, reported, joined⟩ := bind_eq_ok_iff.mp returned
    have each : ∀ rule ∈ rules.filter (·.appliesTo roles),
        rule.diagnose text = .ok (rule.report text) := by
      intro rule applies
      obtain ⟨report, _, here⟩ := exists_result_of_mapM reported applies
      exact rule.diagnose_eq text (exists_diagnose_eq_ok_iff.mp ⟨report, here⟩)
    rw [mapM_eq_ok _ _ _ each] at reported
    rw [if_pos isAny, List.flatMap_def, Except.ok.inj reported]
    exact (Except.ok.inj joined).symm
  · next idle =>
    rw [if_neg idle]
    exact (Except.ok.inj returned).symm

/-! ### Rules about loaded models -/

section

variable {rule : Rule} {memory : Nat} {lookup : Text → Lookup} {spec : Spec} {text : Text}

/-- A rule about loaded models fails only because the message about a load that is not answered for
can not be written. -/
theorem exists_load_of_failsOn (checks : rule.check = checkModelLoads memory lookup spec)
    {fault : Fault} (fails : rule.FailsOn text fault) :
    ∃ call ∈ QuotedCall.findAll QuotedCall.modelLoad text,
      (lookup call.argument).exists = false ∧
        ∃ cause, Template.fill memory call.argument spec.message = .error cause ∧
          fault = .template cause := by
  cases fails with
  | check _ failed =>
    rw [checks, checkModelLoads] at failed
    obtain ⟨call, unknown, failed⟩ := exists_error_of_mapM failed
    obtain ⟨inText, unanswered⟩ := List.mem_filter.mp unknown
    refine ⟨call, inText, by simpa using unanswered, ?_⟩
    rw [reportModelLoad] at failed
    split at failed
    · cases failed
    · next cause unwritten => exact ⟨cause, unwritten, (Except.error.inj failed).symm⟩
  | beyond earlier finding later returned inside beyond =>
    rw [checks] at returned
    have within := inside_of_checkModelLoads returned finding (by simp)
    exact absurd beyond (Nat.not_lt.mpr within)

theorem diagnose_of_confirmed (checks : rule.check = checkModelLoads memory lookup spec)
    (confirmed : ∀ call ∈ QuotedCall.findAll QuotedCall.modelLoad text,
      (lookup call.argument).exists = true) : rule.diagnose text = .ok [] := by
  have none : (QuotedCall.findAll QuotedCall.modelLoad text).filter
      (fun call => !(lookup call.argument).exists) = [] := by
    refine List.filter_eq_nil_iff.mpr fun call inText => ?_
    rw [confirmed call inText]
    exact Bool.false_ne_true
  rw [diagnose, checks, checkModelLoads, none]
  rfl

end

end Rule

end IgniterLint
