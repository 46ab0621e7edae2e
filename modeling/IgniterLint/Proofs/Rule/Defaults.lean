/-
This file says what the rules that stand by default find. Their checks never fail: the one template
among their messages takes any name. What each of them reports is a piece of the text, spelled out
in full, and within one rule the pieces come in order and do not overlap.
-/

import IgniterLint.Proofs.Rule.Report
import IgniterLint.Proofs.Source.Occurrence

namespace IgniterLint

open QuotedCall (IsCall)
open ClassDeclaration (IsDeclaration)

namespace Rule

/-! ### Loaded models -/

/-- The message about a loaded model that nobody knows. -/
def loadMessage (name : Text) : Text := "Model '".toList ++ name ++ "' might not exist".toList

/-- The finding about a load of a model that nobody knows. -/
def loadFinding (call : QuotedCall) : Finding :=
  Finding.ofSpec .modelMayNotExist call.span (loadMessage call.argument)

/-- The loads of models that the registry does not know to exist. -/
def unknownLoads (registry : Registry) (text : Text) : List QuotedCall :=
  (QuotedCall.findAll QuotedCall.modelLoad text).filter fun call =>
    !(registry.lookup call.argument).exists

-- The template is fixed, so reading it and looking up its one field is computation; the name is
-- only copied.
theorem fill_modelMayNotExist (memory : Nat) (name : Text) :
    Template.fill memory name Spec.modelMayNotExist.message = .ok (loadMessage name) := rfl

theorem checkModelLoads_eq (memory : Nat) (registry : Registry) (text : Text) :
    checkModelLoads memory registry.lookup .modelMayNotExist text =
      .ok ((unknownLoads registry text).map loadFinding) := by
  refine mapM_eq_ok _ _ _ fun call _ => ?_
  rw [reportModelLoad, fill_modelMayNotExist]
  rfl

theorem opensWhole_modelLoad : QuotedCall.OpensWhole QuotedCall.modelLoad := by
  constructor <;> decide

theorem opensWhole_directQuery : QuotedCall.OpensWhole QuotedCall.directQuery := by
  constructor <;> decide

/-! ### Rules that report calls -/

/-- The rule reports calls: those of a scan that it does not leave out, each where it stands. -/
structure ReportsCalls (rule : Rule) (opening : Text) (kept : QuotedCall → Bool)
    (finding : QuotedCall → Finding) : Prop where
  opens : QuotedCall.OpensWhole opening
  returned : ∀ text,
    rule.check text = .ok (((QuotedCall.findAll opening text).filter kept).map finding)
  placed : ∀ call, (finding call).span = call.span

theorem reportsCalls_modelLoads (memory : Nat) (id : String) (target : Roles)
    (registry : Registry) :
    (modelLoads memory id target registry .modelMayNotExist).ReportsCalls QuotedCall.modelLoad
      (fun call => !(registry.lookup call.argument).exists) loadFinding :=
  ⟨opensWhole_modelLoad, checkModelLoads_eq memory registry, fun _ => rfl⟩

theorem checkDirectQueries_eq (spec : Spec) (text : Text) :
    checkDirectQueries spec text =
      ((QuotedCall.findAll QuotedCall.directQuery text).filter fun _ => true).map fun call =>
        Finding.ofSpec spec call.span spec.message := by
  rw [List.filter_true, checkDirectQueries]

theorem reportsCalls_directQueries (id : String) (target : Roles) (spec : Spec) :
    (directQueries id target spec).ReportsCalls QuotedCall.directQuery (fun _ => true)
      (fun call => Finding.ofSpec spec call.span spec.message) :=
  ⟨opensWhole_directQuery, fun text => congrArg Except.ok (checkDirectQueries_eq spec text),
    fun _ => rfl⟩

namespace ReportsCalls

variable {rule : Rule} {opening : Text} {kept : QuotedCall → Bool} {finding : QuotedCall → Finding}

theorem fits (reports : rule.ReportsCalls opening kept finding) {text : Text} {found : Finding}
    (member : found ∈ ((QuotedCall.findAll opening text).filter kept).map finding) :
    found.span.Fits text := by
  obtain ⟨call, inScan, rfl⟩ := List.mem_map.mp member
  rw [reports.placed]
  exact QuotedCall.span_fits reports.opens (List.mem_of_mem_filter inScan)

theorem ordered (reports : rule.ReportsCalls opening kept finding) (text : Text) :
    (((QuotedCall.findAll opening text).filter kept).map finding).Pairwise fun earlier later =>
      earlier.span.start < later.span.start ∧ earlier.span.stop ≤ later.span.start := by
  rw [List.pairwise_map]
  simp only [reports.placed]
  exact (QuotedCall.pairwise_span_findAll opening text).filter kept

theorem finds (reports : rule.ReportsCalls opening kept finding) (text : Text) :
    rule.Finds text (((QuotedCall.findAll opening text).filter kept).map finding) :=
  ⟨reports.returned text, fun _ member => (reports.fits member).inside⟩

end ReportsCalls

/-! ### What is reported -/

/-- What the rule of this id may say about this span of the text: which words it covers, and how the
message is made from them. -/
inductive Matched (text : Text) (ruleId : String) (message : Text) (span : Span) : Prop
  /-- a call that loads a model, named in the message -/
  | modelLoad (name : Text) (signed : ruleId = "ModelLoadExistenceRule")
    (call : IsCall "$this->load->model(".toList name (span.slice text))
    (worded : message = "Model '".toList ++ name ++ "' might not exist".toList)
  /-- a call that runs a query written out by hand -/
  | directQuery (query : Text) (signed : ruleId = "DirectQueryStyleRule")
    (call : IsCall "$this->db->query(".toList query (span.slice text))
  /-- a class declaration -/
  | declaration (signed : ruleId ∈ ["ControllerInheritanceRule", "ModelInheritanceRule"])
    (declared : IsDeclaration (span.slice text))
  /-- the start of a text in which no class is declared -/
  | undeclared (signed : ruleId ∈ ["ControllerInheritanceRule", "ModelInheritanceRule"])
    (start : span = Span.empty 0) (absent : ∀ piece, piece <:+: text → ¬ IsDeclaration piece)

/-- The rule's findings on a text: no end of a span lies inside a break, each covers what the rule
looks for, and they come in order without overlaps. -/
structure FindsFaithfully (rule : Rule) (text : Text) (findings : List Finding) : Prop where
  returned : rule.check text = .ok findings
  fits : ∀ finding ∈ findings, finding.span.Fits text
  matched : ∀ finding ∈ findings, Matched text rule.id finding.message finding.span
  ordered : findings.Pairwise fun earlier later =>
    earlier.span.start < later.span.start ∧ earlier.span.stop ≤ later.span.start

theorem FindsFaithfully.finds {rule : Rule} {text : Text} {findings : List Finding}
    (faithful : rule.FindsFaithfully text findings) : rule.Finds text findings :=
  ⟨faithful.returned, fun finding member => (faithful.fits finding member).inside⟩

theorem eq_of_mem_checkInheritance {base : Text} {spec : Spec} {text : Text} {finding : Finding}
    (found : finding ∈ checkInheritance base spec text) :
    finding = Finding.ofSpec spec (ClassDeclaration.find text) spec.message := by
  rw [checkInheritance] at found
  split at found
  · exact absurd found List.not_mem_nil
  · exact List.mem_singleton.mp found

/-- The one finding of a rule that asks for a base class, if it has any. -/
theorem findsFaithfully_inheritance (label id : String) (target : Roles) (base : Text) (spec : Spec)
    (signed : id ∈ ["ControllerInheritanceRule", "ModelInheritanceRule"]) (text : Text) :
    (inheritance label id target base spec).FindsFaithfully text
      (checkInheritance base spec text) := by
  have only : ∀ finding ∈ checkInheritance base spec text,
      finding.span = ClassDeclaration.find text := by
    intro finding member
    rw [eq_of_mem_checkInheritance member]
    rfl
  refine ⟨rfl, fun finding member => ?_, fun finding member => ?_, ?_⟩
  · rw [only finding member]
    exact ClassDeclaration.find_fits text
  · rw [only finding member]
    rcases ClassDeclaration.find_cases text with
      ⟨before, declaration, after, rfl, spelled, place⟩ | ⟨place, absent⟩
    · refine .declaration signed ?_
      rw [place, Span.slice_ofLength]
      exact spelled
    · exact .undeclared signed place absent
  · rw [checkInheritance]
    split
    · exact List.Pairwise.nil
    · exact List.pairwise_singleton _ _

theorem findsFaithfully_modelLoadExistence (registry : Registry) (text : Text) :
    (modelLoadExistence registry).FindsFaithfully text
      ((unknownLoads registry text).map loadFinding) := by
  have reports :=
    reportsCalls_modelLoads 0 (modelLoadExistence registry).id .controllerOnly registry
  refine ⟨reports.returned text, fun finding => reports.fits, fun finding member => ?_,
    reports.ordered text⟩
  obtain ⟨call, unknown, rfl⟩ := List.mem_map.mp member
  exact .modelLoad call.argument rfl (QuotedCall.isCall_slice (List.mem_of_mem_filter unknown)) rfl

theorem findsFaithfully_directQueryStyle (text : Text) :
    directQueryStyle.FindsFaithfully text (checkDirectQueries .directQuery text) := by
  have reports := reportsCalls_directQueries directQueryStyle.id .modelOnly .directQuery
  rw [checkDirectQueries_eq]
  refine ⟨reports.returned text, fun finding => reports.fits, fun finding member => ?_,
    reports.ordered text⟩
  obtain ⟨call, inText, rfl⟩ := List.mem_map.mp member
  exact .directQuery call.argument rfl (QuotedCall.isCall_slice (List.mem_of_mem_filter inText))

/-- Every rule that stands by default finds faithfully, on every text and with every registry. -/
theorem exists_findsFaithfully (registry : Registry) (text : Text) (rule : Rule)
    (member : rule ∈ defaults registry) : ∃ findings, rule.FindsFaithfully text findings := by
  simp only [defaults, List.mem_cons, List.not_mem_nil, or_false] at member
  rcases member with rfl | rfl | rfl | rfl
  · exact ⟨_, findsFaithfully_inheritance _ _ _ _ _ (by decide) text⟩
  · exact ⟨_, findsFaithfully_modelLoadExistence registry text⟩
  · exact ⟨_, findsFaithfully_inheritance _ _ _ _ _ (by decide) text⟩
  · exact ⟨_, findsFaithfully_directQueryStyle text⟩

theorem soundOn_defaults (registry : Registry) (text : Text) :
    ∀ rule ∈ defaults registry, rule.SoundOn text := by
  intro rule member
  obtain ⟨findings, faithful⟩ := exists_findsFaithfully registry text rule member
  exact ⟨findings, faithful.finds⟩

/-! ### What is said -/

/-- The specs whose message is said as it stands. -/
def plainSpecs : List Spec := [.controllerMissingBaseClass, .modelMissingBaseClass, .directQuery]

/-- A rule that stands by default says what its spec says, or it names a loaded model. -/
theorem finding_cases {registry : Registry} {text : Text} {rule : Rule}
    (stands : rule ∈ defaults registry) {finding : Finding}
    (found : finding ∈ rule.findings text) :
    (∃ spec ∈ plainSpecs, ∃ span, finding = Finding.ofSpec spec span spec.message) ∨
      rule = modelLoadExistence registry ∧ ∃ call ∈ unknownLoads registry text,
        finding = loadFinding call := by
  simp only [defaults, List.mem_cons, List.not_mem_nil, or_false] at stands
  rcases stands with rfl | rfl | rfl | rfl
  · exact Or.inl ⟨_, by simp [plainSpecs], _, eq_of_mem_checkInheritance found⟩
  · rw [(findsFaithfully_modelLoadExistence registry text).finds.findings_eq] at found
    obtain ⟨call, unknown, rfl⟩ := List.mem_map.mp found
    exact Or.inr ⟨rfl, call, unknown, rfl⟩
  · exact Or.inl ⟨_, by simp [plainSpecs], _, eq_of_mem_checkInheritance found⟩
  · obtain ⟨call, _, rfl⟩ := List.mem_map.mp found
    exact Or.inl ⟨.directQuery, by simp [plainSpecs], _, rfl⟩

end Rule

end IgniterLint
