/-
This file proves that the diagnostics of a document can be taken at their word. Checking a document
with the rules that stand by default always gives a result, and every position in it, read back
through the lines of the text, is the offset that the rule meant: the characters between the two
ends of a diagnostic are the very words that it is about. Diagnostics of one rule stand in the order
of the text and do not overlap.
-/

import IgniterLint.Analysis
import IgniterLint.Proofs.Rule.Defaults

namespace IgniterLint

theorem Roles.isAny_of_includes (roles wanted : Roles) (covered : roles.includes wanted = true)
    (asked : wanted.isAny = true) : roles.isAny = true := by
  obtain ⟨controller, model⟩ := roles
  obtain ⟨wantsController, wantsModel⟩ := wanted
  revert controller model wantsController wantsModel
  decide

namespace Rule

/-- The default table is sound, whatever the registry. -/
theorem resolve_defaults (registry : Option Registry) :
    resolve none registry = .ok (defaults (registry.getD .unaware)) := by
  cases registry <;> rfl

theorem pairwise_id_defaults (registry : Registry) :
    (defaults registry).Pairwise fun first second => first.id ≠ second.id := by
  have distinct : ((defaults registry).map (·.id)).Nodup := by
    show ["ControllerInheritanceRule", "ModelLoadExistenceRule", "ModelInheritanceRule",
      "DirectQueryStyleRule"].Nodup
    decide
  exact List.pairwise_map.mp distinct

/-- A default rule targets some part, so it applies to no document that plays none. -/
theorem isAny_of_appliesTo_defaults (registry : Registry) (roles : Roles) (rule : Rule)
    (member : rule ∈ defaults registry) (applies : rule.appliesTo roles = true) :
    roles.isAny = true := by
  simp only [defaults, List.mem_cons, List.not_mem_nil, or_false] at member
  rcases member with rfl | rfl | rfl | rfl
  · exact roles.isAny_of_includes .controllerOnly applies rfl
  · exact roles.isAny_of_includes .controllerOnly applies rfl
  · exact roles.isAny_of_includes .modelOnly applies rfl
  · exact roles.isAny_of_includes .modelOnly applies rfl

/-- Within a rule that finds faithfully, later diagnostics start behind the end of earlier ones. -/
theorem FindsFaithfully.pairwise_report {rule : Rule} {text : Text} {findings : List Finding}
    (faithful : rule.FindsFaithfully text findings) :
    (rule.report text).Pairwise fun earlier later =>
      earlier.start < later.start ∧ earlier.stop ≤ later.start := by
  rw [report, faithful.finds.findings_eq, List.pairwise_map]
  refine List.Pairwise.imp_of_mem ?_ faithful.ordered
  rintro earlier later earlierFound laterFound ⟨starts, apart⟩
  have earlierFits := faithful.fits earlier earlierFound
  have laterFits := faithful.fits later laterFound
  exact ⟨text.positionOf_lt _ _ starts laterFits.startInside earlierFits.startWhole
      laterFits.startWhole,
    text.positionOf_le _ _ apart laterFits.startInside earlierFits.stopWhole laterFits.startWhole⟩

end Rule

/-- The diagnostic says what the finding says, and its positions, read back through the lines of the
text, are the ends of the finding's span. -/
structure Finding.PlacedBy (finding : Finding) (text : Text) (ruleId : String)
    (diagnostic : Diagnostic) : Prop where
  signed : diagnostic.ruleId = ruleId
  worded : diagnostic.message = finding.message
  start : diagnostic.start.offsetIn text = some finding.span.start
  stop : diagnostic.stop.offsetIn text = some finding.span.stop

theorem Span.Fits.placedBy {finding : Finding} {text : Text} (fits : finding.span.Fits text)
    (ruleId : String) : finding.PlacedBy text ruleId (finding.placed ruleId text) :=
  ⟨rfl, rfl, text.offsetIn_positionOf _ fits.startInside fits.startWhole,
    text.offsetIn_positionOf _ fits.inside fits.stopWhole⟩

namespace Rule

variable {registry : Registry} {text : Text} {roles : Roles}

/-- Every diagnostic is placed where its rule found it. -/
theorem exists_finding_of_mem_reportAll {diagnostic : Diagnostic}
    (member : diagnostic ∈ reportAll text roles (defaults registry)) :
    ∃ rule ∈ defaults registry, ∃ findings, rule.check text = .ok findings ∧
      ∃ finding ∈ findings, finding.PlacedBy text rule.id diagnostic ∧
        finding.span.stop ≤ text.length ∧
        Matched text diagnostic.ruleId diagnostic.message finding.span := by
  obtain ⟨rule, stands, reported⟩ := exists_rule_of_mem_reportAll member
  obtain ⟨findings, faithful⟩ := exists_findsFaithfully registry text rule stands
  rw [report, faithful.finds.findings_eq] at reported
  obtain ⟨finding, found, rfl⟩ := List.mem_map.mp reported
  have fits := faithful.fits finding found
  exact ⟨rule, stands, findings, faithful.returned, finding, found, fits.placedBy rule.id,
    fits.inside, faithful.matched finding found⟩

/-- Nothing that a rule found is lost, if the rule applies. -/
theorem exists_diagnostic_of_mem_findings {rule : Rule} (stands : rule ∈ defaults registry)
    (applies : rule.appliesTo roles = true) {findings : List Finding}
    (returned : rule.check text = .ok findings) {finding : Finding} (found : finding ∈ findings) :
    ∃ diagnostic ∈ reportAll text roles (defaults registry),
      finding.PlacedBy text rule.id diagnostic := by
  obtain ⟨others, faithful⟩ := exists_findsFaithfully registry text rule stands
  obtain rfl : others = findings := Except.ok.inj (faithful.returned.symm.trans returned)
  refine ⟨finding.placed rule.id text, ?_, (faithful.fits finding found).placedBy rule.id⟩
  have isAny := isAny_of_appliesTo_defaults registry _ rule stands applies
  refine mem_reportAll_iff.mpr ⟨isAny, rule, stands, applies, ?_⟩
  rw [report, faithful.finds.findings_eq]
  exact List.mem_map_of_mem found

theorem pairwise_reportAll (registry : Registry) (text : Text) (roles : Roles) :
    (reportAll text roles (defaults registry)).Pairwise fun earlier later =>
      earlier.ruleId = later.ruleId → earlier.start < later.start ∧ earlier.stop ≤ later.start := by
  rw [reportAll]
  split
  · rw [List.pairwise_flatMap]
    constructor
    · intro rule member
      obtain ⟨findings, faithful⟩ :=
        exists_findsFaithfully registry text rule (List.mem_of_mem_filter member)
      refine faithful.pairwise_report.imp ?_
      intro earlier later placed _
      exact placed
    · -- Rules of different ids never compare.
      refine ((pairwise_id_defaults registry).filter _).imp ?_
      intro first second distinct earlier earlierReported later laterReported same
      rw [ruleId_of_mem_report earlierReported, ruleId_of_mem_report laterReported] at same
      exact absurd same distinct
  · exact List.Pairwise.nil

end Rule

namespace Analysis

/-- Checking a document with the rules that stand by default never fails. -/
theorem ofDocument_defaults (document : Document) (registry : Option Registry) :
    ofDocument document none registry =
      .ok ⟨document, Roles.ofPath document.identity,
        Rule.reportAll document.text (Roles.ofPath document.identity)
          (Rule.defaults (registry.getD .unaware))⟩ := by
  rw [ofDocument, Rule.resolve_defaults]
  simp only [bind, Except.bind]
  rw [Rule.runAll_eq _ _ _ (Rule.soundOn_defaults _ _)]
  rfl

/-- Checking a document with the rules that stand by default gives a result. Read back through the
lines of the text, the ends of each diagnostic are the ends of a span in the text that its rule
reports, and the span covers what the rule looks for; and each span that a rule reports has its
diagnostic, if the rule applies. Diagnostics of one rule are in order and do not overlap. -/
theorem ofDocument_faithful (document : Document) (registry : Option Registry) :
    ∃ analysis, ofDocument document none registry = .ok analysis ∧
      (∀ diagnostic ∈ analysis.diagnostics,
        ∃ rule ∈ Rule.defaults (registry.getD .unaware),
          ∃ findings, rule.check document.text = .ok findings ∧
            ∃ finding ∈ findings, finding.PlacedBy document.text rule.id diagnostic ∧
              finding.span.stop ≤ document.text.length ∧
              Rule.Matched document.text diagnostic.ruleId diagnostic.message finding.span) ∧
      (∀ rule ∈ Rule.defaults (registry.getD .unaware), rule.appliesTo analysis.roles = true →
        ∀ findings, rule.check document.text = .ok findings → ∀ finding ∈ findings,
          ∃ diagnostic ∈ analysis.diagnostics,
            finding.PlacedBy document.text rule.id diagnostic) ∧
      analysis.diagnostics.Pairwise fun earlier later =>
        earlier.ruleId = later.ruleId →
          earlier.start < later.start ∧ earlier.stop ≤ later.start := by
  refine ⟨_, ofDocument_defaults document registry, fun diagnostic member => ?_, ?_, ?_⟩
  · exact Rule.exists_finding_of_mem_reportAll member
  · intro rule stands applies findings returned finding found
    exact Rule.exists_diagnostic_of_mem_findings stands applies returned found
  · exact Rule.pairwise_reportAll _ _ _

end Analysis

end IgniterLint
