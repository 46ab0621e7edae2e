/-
This file says what the two rules that look for calls report. Both report the spans of a scan, and a
rule about models leaves out those whose name is answered for. Neither the message nor the answers
have a say in where a finding lies.

When more text follows, such a rule reports what it reported before, and then what is new. The
findings stay because the scan keeps them. Their positions stay because a call does not end with a
carriage return, so that a line feed which comes next can not join it.
-/

import IgniterLint.Proofs.Analysis.Faithful
import IgniterLint.Proofs.Source.CallScan

namespace IgniterLint

open QuotedCall (findAll modelLoad directQuery IsScan OpensUnmarked)

/-- A span that no break lies across, with more text behind and without, has the same positions. -/
theorem Span.Fits.placed_append {finding : Finding} {ruleId : String} {before after : Text}
    (fits : finding.span.Fits before) (fitsWhole : finding.span.Fits (before ++ after)) :
    finding.placed ruleId (before ++ after) = finding.placed ruleId before := by
  rw [Finding.placed, Finding.placed,
    Text.positionOf_append_left fits.startInside fits.startWhole fitsWhole.startWhole,
    Text.positionOf_append_left fits.inside fits.stopWhole fitsWhole.stopWhole]

theorem Lookup.not_exists_eq (answer : Lookup) :
    (!answer.exists) = decide (answer.status ≠ .found) := by
  obtain ⟨status, name⟩ := answer
  cases status <;> rfl

namespace Rule

/-! ### Spans that are reported -/

theorem reportModelLoad_eq_ok_iff {memory : Nat} {spec : Spec} {call : QuotedCall}
    {finding : Finding} :
    reportModelLoad memory spec call = .ok finding ↔
      ∃ message, Template.fill memory call.argument spec.message = .ok message ∧
        Finding.ofSpec spec call.span message = finding := by
  rw [reportModelLoad]
  cases Template.fill memory call.argument spec.message with
  | ok message => simp
  | error fault => simp

theorem checkModelLoads_eq_mapM (memory : Nat) (lookup : Text → Lookup) (spec : Spec)
    (text : Text) :
    checkModelLoads memory lookup spec text =
      ((findAll modelLoad text).filter fun call => (lookup call.argument).status ≠ .found).mapM
        (reportModelLoad memory spec) := by
  rw [checkModelLoads]
  simp only [Lookup.not_exists_eq]

theorem map_span_of_checkModelLoads {memory : Nat} {lookup : Text → Lookup} {spec : Spec}
    {text : Text} {findings : List Finding}
    (returned : checkModelLoads memory lookup spec text = .ok findings) :
    findings.map (·.span) =
      ((findAll modelLoad text).filter fun call => (lookup call.argument).status ≠ .found).map
        (·.span) := by
  rw [checkModelLoads_eq_mapM] at returned
  refine map_eq_of_mapM ?_ returned
  intro call finding reported
  obtain ⟨message, _, rfl⟩ := reportModelLoad_eq_ok_iff.mp reported
  rfl

theorem inside_of_checkModelLoads {memory : Nat} {lookup : Text → Lookup} {spec : Spec}
    {text : Text} {findings : List Finding}
    (returned : checkModelLoads memory lookup spec text = .ok findings) :
    ∀ finding ∈ findings, finding.span.stop ≤ text.length := by
  intro finding member
  have placed : finding.span ∈ findings.map (·.span) := List.mem_map_of_mem member
  rw [map_span_of_checkModelLoads returned] at placed
  obtain ⟨call, kept, same⟩ := List.mem_map.mp placed
  rw [← same]
  exact (QuotedCall.span_fits opensWhole_modelLoad (List.mem_of_mem_filter kept)).inside

/-- The check of loaded models fails only if the message of a reported load can not be written. -/
theorem exists_checkModelLoads_eq_ok_iff {memory : Nat} {lookup : Text → Lookup} {spec : Spec}
    {text : Text} :
    (∃ findings, checkModelLoads memory lookup spec text = .ok findings) ↔
      ∀ call ∈ findAll modelLoad text, (lookup call.argument).status ≠ .found →
        ∃ message, Template.fill memory call.argument spec.message = .ok message := by
  rw [checkModelLoads_eq_mapM, exists_mapM_eq_ok_iff]
  simp only [List.mem_filter, decide_eq_true_eq, and_imp, reportModelLoad_eq_ok_iff]
  refine forall₃_congr fun call _ _ => ?_
  constructor
  · rintro ⟨finding, message, filled, _⟩
    exact ⟨message, filled⟩
  · rintro ⟨message, filled⟩
    exact ⟨_, message, filled, rfl⟩

/-- Queries written out by hand are reported where a scan takes them, all of them. So are loads of
models, those whose name is not answered as found, whoever answers; the check fails only if one of
their messages can not be written, which does not happen with the message that stands by default. -/
theorem calls_reported_exactly (text : Text) :
    (∃ calls, IsScan "$this->db->query(".toList text calls ∧
      ∀ spec, (checkDirectQueries spec text).map (·.span) = calls.map (·.span)) ∧
    ∃ calls, IsScan "$this->load->model(".toList text calls ∧
      ∀ (memory : Nat) (lookup : Text → Lookup) (spec : Spec),
        (∀ findings, checkModelLoads memory lookup spec text = .ok findings →
          findings.map (·.span) =
            (calls.filter fun call => (lookup call.argument).status ≠ .found).map (·.span)) ∧
        ((∀ name, (lookup name).status ≠ .found) →
          ∀ findings, checkModelLoads memory lookup spec text = .ok findings →
            findings.map (·.span) = calls.map (·.span)) ∧
        ((∃ findings, checkModelLoads memory lookup spec text = .ok findings) ↔
          ∀ call ∈ calls, (lookup call.argument).status ≠ .found →
            ∃ message, Template.fill memory call.argument spec.message = .ok message) ∧
        ∃ findings, checkModelLoads memory lookup .modelMayNotExist text = .ok findings := by
  refine ⟨⟨_, QuotedCall.isScan_findAll directQuery text, fun spec => ?_⟩,
    _, QuotedCall.isScan_findAll modelLoad text, fun memory lookup spec => ⟨?_, ?_, ?_, ?_⟩⟩
  · rw [checkDirectQueries, List.map_map]
    rfl
  · intro findings returned
    exact map_span_of_checkModelLoads returned
  · intro unconfirmed findings returned
    rw [map_span_of_checkModelLoads returned, List.filter_eq_self.mpr]
    intro call _
    exact decide_eq_true (unconfirmed call.argument)
  · exact exists_checkModelLoads_eq_ok_iff
  · exact exists_checkModelLoads_eq_ok_iff.mpr fun call _ _ => ⟨_, fill_modelMayNotExist memory _⟩

-- The mark that ends the first argument starts a second one, whose call is passed over.
example : (findAll modelLoad "$this->load->model('$this->load->model(')x')".toList).map (·.span) =
    [Span.ofLength 0 41] := by decide

/-! ### More text behind -/

theorem opensUnmarked_modelLoad : OpensUnmarked modelLoad := by decide

theorem opensUnmarked_directQuery : OpensUnmarked directQuery := by decide

namespace ReportsCalls

variable {rule : Rule} {opening : Text} {kept : QuotedCall → Bool} {finding : QuotedCall → Finding}

theorem report_prefix_append (reports : rule.ReportsCalls opening kept finding)
    (unmarked : OpensUnmarked opening) (before after : Text) :
    rule.report before <+: rule.report (before ++ after) := by
  have findingsGrow : ((findAll opening before).filter kept).map finding <+:
      ((findAll opening (before ++ after)).filter kept).map finding :=
    ((QuotedCall.findAll_prefix_append unmarked before after).filter kept).map finding
  have stays : ∀ found ∈ ((findAll opening before).filter kept).map finding,
      found.placed rule.id before = found.placed rule.id (before ++ after) := by
    intro found member
    exact ((reports.fits member).placed_append (reports.fits (findingsGrow.subset member))).symm
  rw [report, report, (reports.finds before).findings_eq,
    (reports.finds (before ++ after)).findings_eq, List.map_congr_left stays]
  exact findingsGrow.map _

theorem reportAll_prefix_append (reports : rule.ReportsCalls opening kept finding)
    (unmarked : OpensUnmarked opening) (before after : Text) (roles : Roles) :
    reportAll before roles [rule] <+: reportAll (before ++ after) roles [rule] := by
  have grows := reports.report_prefix_append unmarked before after
  unfold reportAll
  split
  · cases applies : rule.appliesTo roles with
    | true => simpa [applies] using grows
    | false => simp [applies]
  · exact List.prefix_refl []

/-- A run of a rule that reports calls goes on with more text where it ended without. -/
theorem runAll_prefix_append (reports : rule.ReportsCalls opening kept finding)
    (unmarked : OpensUnmarked opening) (before after : Text) (roles : Roles) :
    ∃ first whole, runAll before roles [rule] = .ok first ∧
      runAll (before ++ after) roles [rule] = .ok whole ∧ first <+: whole := by
  have sound : ∀ text, ∀ single ∈ [rule], single.SoundOn text := by
    intro text single member
    rw [List.mem_singleton.mp member]
    exact ⟨_, reports.finds text⟩
  exact ⟨_, _, runAll_eq before roles [rule] (sound before),
    runAll_eq (before ++ after) roles [rule] (sound (before ++ after)),
    reports.reportAll_prefix_append unmarked before after roles⟩

end ReportsCalls

/-- Text that is added at the end does not disturb what was said about calls: each of the two rules,
run on its own, says about the first part of a text what it says first about the whole, and what
each of them signs in a run of the rules that stand by default grows in the same way. -/
theorem runAll_undisturbed_by_append (before after : Text) (roles : Roles) (registry : Registry) :
    (∀ (memory : Nat) (id : String) (target : Roles) (spec : Spec),
      ∀ rule ∈ [modelLoads memory id target registry .modelMayNotExist,
          directQueries id target spec],
        ∃ first whole, runAll before roles [rule] = .ok first ∧
          runAll (before ++ after) roles [rule] = .ok whole ∧ first <+: whole) ∧
    ∃ first whole, runAll before roles (defaults registry) = .ok first ∧
      runAll (before ++ after) roles (defaults registry) = .ok whole ∧
      ∀ rule ∈ [modelLoadExistence registry, directQueryStyle],
        first.filter (fun diagnostic => diagnostic.ruleId = rule.id) <+:
          whole.filter (fun diagnostic => diagnostic.ruleId = rule.id) := by
  constructor
  · intro memory id target spec rule isCallRule
    simp only [List.mem_cons, List.not_mem_nil, or_false] at isCallRule
    rcases isCallRule with rfl | rfl
    · exact (reportsCalls_modelLoads memory id target registry).runAll_prefix_append
        opensUnmarked_modelLoad before after roles
    · exact (reportsCalls_directQueries id target spec).runAll_prefix_append
        opensUnmarked_directQuery before after roles
  · have distinct := pairwise_id_defaults registry
    refine ⟨_, _, runAll_eq before roles _ (soundOn_defaults registry before),
      runAll_eq (before ++ after) roles _ (soundOn_defaults registry (before ++ after)), ?_⟩
    intro rule isCallRule
    simp only [List.mem_cons, List.not_mem_nil, or_false] at isCallRule
    rcases isCallRule with rfl | rfl
    · rw [filter_reportAll distinct (by simp [defaults]),
        filter_reportAll distinct (by simp [defaults])]
      exact (reportsCalls_modelLoads 0 _ _ registry).reportAll_prefix_append
        opensUnmarked_modelLoad before after roles
    · rw [filter_reportAll distinct (by simp [defaults]),
        filter_reportAll distinct (by simp [defaults])]
      exact (reportsCalls_directQueries _ _ _).reportAll_prefix_append
        opensUnmarked_directQuery before after roles

end Rule

end IgniterLint
