/-
This file compares checks of one text under registries that list fewer models and more. The scan for
loads of models does not ask the registry, so both checks go over the same loads, and each of them
leaves out those that its registry finds. A registry that lists more finds more, so its diagnostics
are those of the other less the loads that are found now. Every other rule says the same in both.
-/

import IgniterLint.Proofs.Analysis.Faithful
import IgniterLint.Proofs.Registry
import IgniterLint.Proofs.Source.CallScan

namespace IgniterLint

open QuotedCall (IsCall findAll modelLoad)

/-- The characters between the two ends of the diagnostic spell a load of the model of this name. -/
def Diagnostic.CoversLoad (text : Text) (diagnostic : Diagnostic) (name : Text) : Prop :=
  ∃ span : Span, diagnostic.start.offsetIn text = some span.start ∧
    diagnostic.stop.offsetIn text = some span.stop ∧
    IsCall "$this->load->model(".toList name (span.slice text)

/-- The diagnostic is about the load of a model whose name has the normal form of one of the models
in `more`, and of none in `fewer`. -/
def Diagnostic.IsSettledBy (text : Text) (fewer more : List Text) (diagnostic : Diagnostic) :
    Prop :=
  diagnostic.ruleId = "ModelLoadExistenceRule" ∧ ∃ name, diagnostic.CoversLoad text name ∧
    (∃ model ∈ more, normalizeModelName model = normalizeModelName name) ∧
    ¬ ∃ model ∈ fewer, normalizeModelName model = normalizeModelName name

namespace Rule

/-- The diagnostic about one load of a model. -/
def loadDiagnostic (text : Text) (call : QuotedCall) : Diagnostic :=
  (loadFinding call).placed "ModelLoadExistenceRule" text

theorem report_modelLoadExistence (registry : Registry) (text : Text) :
    (modelLoadExistence registry).report text =
      (unknownLoads registry text).map (loadDiagnostic text) := by
  rw [report, (findsFaithfully_modelLoadExistence registry text).finds.findings_eq, List.map_map]
  rfl

theorem coversLoad_loadDiagnostic_iff {text : Text} {call : QuotedCall}
    (found : call ∈ findAll modelLoad text) {name : Text} :
    (loadDiagnostic text call).CoversLoad text name ↔ name = call.argument := by
  obtain ⟨_, _, callStarts, callStops⟩ :
      (loadFinding call).PlacedBy text "ModelLoadExistenceRule" (loadDiagnostic text call) :=
    (QuotedCall.span_fits opensWhole_modelLoad found).placedBy _
  have spelled := QuotedCall.isCall_slice found
  constructor
  · rintro ⟨span, starts, stops, covered⟩
    have sameStart : call.span.start = span.start := Option.some.inj (callStarts.symm.trans starts)
    have sameStop : call.span.stop = span.stop := Option.some.inj (callStops.symm.trans stops)
    have sameSlice : call.span.slice text = span.slice text := by
      rw [Span.slice, Span.slice, Span.length, Span.length, sameStart, sameStop]
    rw [sameSlice] at spelled
    have alone : span.slice text ++ [] = span.slice text ++ [] := rfl
    exact (covered.eq_of_append_eq spelled alone).1
  · rintro rfl
    exact ⟨call.span, callStarts, callStops, spelled⟩

variable {fewer more : List Text}

/-- A load that is not known under fewer models is settled by more of them exactly if those list
it. -/
theorem isSettledBy_loadDiagnostic_iff {text : Text} {call : QuotedCall}
    (unknown : call ∈ unknownLoads (.listing fewer) text) :
    (loadDiagnostic text call).IsSettledBy text fewer more ↔
      ((Registry.listing more).lookup call.argument).exists = true := by
  obtain ⟨found, unfound⟩ := List.mem_filter.mp unknown
  rw [Bool.not_eq_true', Bool.eq_false_iff, Ne, Registry.exists_lookup_listing_iff] at unfound
  rw [Registry.exists_lookup_listing_iff]
  constructor
  · rintro ⟨_, name, covers, listed, _⟩
    rwa [(coversLoad_loadDiagnostic_iff found).mp covers] at listed
  · intro listed
    exact ⟨rfl, call.argument, (coversLoad_loadDiagnostic_iff found).mpr rfl, listed, unfound⟩

theorem unknownLoads_of_subset (subset : fewer ⊆ more) (text : Text) :
    unknownLoads (.listing more) text =
      (unknownLoads (.listing fewer) text).filter fun call =>
        !((Registry.listing more).lookup call.argument).exists := by
  rw [unknownLoads, unknownLoads, List.filter_filter]
  refine List.filter_congr fun call _ => ?_
  cases found : ((Registry.listing more).lookup call.argument).exists with
  | true => rfl
  | false =>
    have unfound : ((Registry.listing fewer).lookup call.argument).exists = false := by
      rw [Bool.eq_false_iff, Ne, Registry.exists_lookup_listing_iff] at found ⊢
      rintro ⟨model, listed, same⟩
      exact found ⟨model, subset listed, same⟩
    rw [unfound]
    rfl

theorem reportAll_singleton (text : Text) (roles : Roles) (rule : Rule) :
    reportAll text roles [rule] =
      if roles.isAny ∧ rule.appliesTo roles then rule.report text else [] := by
  rw [reportAll]
  split
  · next isAny =>
    cases applies : rule.appliesTo roles with
    | true => simp [isAny, applies]
    | false => simp [applies]
  · next notAny => simp [notAny]

/-- Dropping the diagnostics that more models settle from the run under fewer models gives the run
under more. -/
theorem filter_reportAll_modelLoadExistence (subset : fewer ⊆ more) (text : Text) (roles : Roles)
    {stays : Diagnostic → Bool}
    (unsettled : ∀ diagnostic, stays diagnostic = false ↔ diagnostic.IsSettledBy text fewer more) :
    (reportAll text roles [modelLoadExistence (.listing fewer)]).filter stays =
      reportAll text roles [modelLoadExistence (.listing more)] := by
  have sameTarget : (modelLoadExistence (.listing fewer)).appliesTo roles =
    (modelLoadExistence (.listing more)).appliesTo roles := rfl
  rw [reportAll_singleton, reportAll_singleton, sameTarget]
  split
  · rw [report_modelLoadExistence, report_modelLoadExistence, unknownLoads_of_subset subset,
      List.filter_map]
    refine congrArg (List.map (loadDiagnostic text)) (List.filter_congr fun call unknown => ?_)
    rw [Bool.eq_iff_iff, Function.comp_apply, ← Bool.not_eq_false, unsettled,
      isSettledBy_loadDiagnostic_iff unknown, Bool.not_eq_true', Bool.eq_false_iff]
  · rfl

theorem filter_reportAll_other {text : Text} {roles : Roles} {stays : Diagnostic → Bool}
    (unsettled : ∀ diagnostic, stays diagnostic = false ↔ diagnostic.IsSettledBy text fewer more)
    {rule : Rule} (other : rule.id ≠ "ModelLoadExistenceRule") :
    (reportAll text roles [rule]).filter stays = reportAll text roles [rule] := by
  refine List.filter_eq_self.mpr fun diagnostic member => ?_
  obtain ⟨same, stands, reported⟩ := exists_rule_of_mem_reportAll member
  rw [← Bool.not_eq_false, unsettled]
  rintro ⟨signed, _⟩
  rw [ruleId_of_mem_report reported, List.mem_singleton.mp stands] at signed
  exact other signed

theorem filter_reportAll_defaults (subset : fewer ⊆ more) (text : Text) (roles : Roles)
    {stays : Diagnostic → Bool}
    (unsettled : ∀ diagnostic, stays diagnostic = false ↔ diagnostic.IsSettledBy text fewer more) :
    (reportAll text roles (defaults (.listing fewer))).filter stays =
      reportAll text roles (defaults (.listing more)) := by
  rw [defaults, defaults]
  simp only [reportAll_cons text roles _ (_ :: _), List.filter_append]
  rw [filter_reportAll_modelLoadExistence subset text roles unsettled,
    filter_reportAll_other unsettled (by decide), filter_reportAll_other unsettled (by decide),
    filter_reportAll_other unsettled (by decide)]

/-- Under a list without models every load is unknown, as it is without a list. -/
theorem unknownLoads_nil (text : Text) :
    unknownLoads (.listing []) text = unknownLoads .unaware text := rfl

theorem reportAll_defaults_nil (text : Text) (roles : Roles) :
    reportAll text roles (defaults (.listing [])) = reportAll text roles (defaults .unaware) := by
  have same : reportAll text roles [modelLoadExistence (.listing [])] =
      reportAll text roles [modelLoadExistence .unaware] := by
    rw [reportAll_singleton, reportAll_singleton, report_modelLoadExistence,
      report_modelLoadExistence, unknownLoads_nil]
    rfl
  rw [defaults, defaults]
  simp only [reportAll_cons text roles _ (_ :: _), same]

end Rule

namespace Analysis

theorem ofText_defaults (text path : Text) (registry : Registry) :
    ofText text path none (some registry) =
      .ok ⟨⟨path, text, Document.sourceLanguage⟩, Roles.ofPath path,
        Rule.reportAll text (Roles.ofPath path) (Rule.defaults registry)⟩ :=
  ofDocument_defaults _ (some registry)

/-- Listing more models only takes diagnostics away, and keeps the order of those that stay: what
goes are the loads of models that are listed now and were not before. A list without models is as
good as none. -/
theorem ofText_knowing_more (text path : Text) (fewer more : List Text) (subset : fewer ⊆ more) :
    (∃ before after,
      ofText text path none (some (.listing fewer)) = .ok before ∧
      ofText text path none (some (.listing more)) = .ok after ∧
      after.diagnostics.Sublist before.diagnostics ∧
      ∃ stays : Diagnostic → Bool, after.diagnostics = before.diagnostics.filter stays ∧
        ∀ diagnostic, stays diagnostic = false ↔ diagnostic.IsSettledBy text fewer more) ∧
    ofText text path none (some (.listing [])) = ofText text path none (some .unaware) := by
  classical
  let stays (diagnostic : Diagnostic) : Bool := !decide (diagnostic.IsSettledBy text fewer more)
  have unsettled : ∀ diagnostic,
      stays diagnostic = false ↔ diagnostic.IsSettledBy text fewer more := by
    intro diagnostic
    rw [Bool.not_eq_false', decide_eq_true_iff]
  have dropped := Rule.filter_reportAll_defaults subset text (Roles.ofPath path) unsettled
  refine ⟨⟨_, _, ofText_defaults text path _, ofText_defaults text path _, ?_, stays, dropped.symm,
    unsettled⟩, ?_⟩
  · exact dropped ▸ List.filter_sublist
  · rw [ofText_defaults, ofText_defaults, Rule.reportAll_defaults_nil]

/-- A controller that loads one model in two spellings and another one in between. -/
def threeLoads : Text :=
  ("extends CI_Controller $this->load->model('a')$this->load->model('b')" ++
    "$this->load->model(' A')").toList

theorem ofText_knowing_more_threeLoads :
    ["c".toList] ⊆ ["A".toList, "c".toList] ∧ ∃ before after,
      ofText threeLoads "controllers.php".toList none (some (.listing ["c".toList])) =
        .ok before ∧
      ofText threeLoads "controllers.php".toList none (some (.listing ["A".toList, "c".toList])) =
        .ok after ∧
      after.diagnostics.Sublist before.diagnostics ∧
      before.diagnostics.map (·.start.column) = [22, 45, 68] ∧
      after.diagnostics.map (·.start.column) = [45] := by
  have subset : ["c".toList] ⊆ ["A".toList, "c".toList] := by decide
  obtain ⟨⟨before, after, ranBefore, ranAfter, sublist, _⟩, _⟩ :=
    ofText_knowing_more threeLoads "controllers.php".toList _ _ subset
  have columnsBefore : ((ofText threeLoads "controllers.php".toList none
      (some (.listing ["c".toList]))).map fun analysis =>
        analysis.diagnostics.map (·.start.column)) = .ok [22, 45, 68] := by decide +kernel
  have columnsAfter : ((ofText threeLoads "controllers.php".toList none
      (some (.listing ["A".toList, "c".toList]))).map fun analysis =>
        analysis.diagnostics.map (·.start.column)) = .ok [45] := by decide +kernel
  rw [ranBefore] at columnsBefore
  rw [ranAfter] at columnsAfter
  exact ⟨subset, before, after, ranBefore, ranAfter, sublist, Except.ok.inj columnsBefore,
    Except.ok.inj columnsAfter⟩

end Analysis

end IgniterLint
