/-
This file proves that the spelling of line breaks does not show in the diagnostics. Unifying the
breaks of a text unifies the breaks in the messages about it and changes nothing else: the same
rules report the same number of diagnostics at the same positions. Files that hold the same lines,
joined by line feeds, by carriage returns or by both, unify to the same text, so their diagnostics
agree in everything but messages, and in the messages too unless a loaded name has a break in it.
-/

import IgniterLint.Proofs.Rule.Defaults
import IgniterLint.Proofs.Source.UnifiedBreaks

namespace IgniterLint

open Text (Unbroken unifyBreaks)

/-- The finding that corresponds to one in a text, in the text with unified breaks. -/
structure Finding.UnifiesTo (text : Text) (here there : Finding) : Prop where
  place : Span.SamePlace text text.unifyBreaks here.span there.span
  message : there.message = here.message.unifyBreaks
  severity : there.severity = here.severity
  spec : there.spec = here.spec

/-- The diagnostic with the breaks of its message unified. -/
def Diagnostic.unifyBreaks (diagnostic : Diagnostic) : Diagnostic :=
  { diagnostic with message := diagnostic.message.unifyBreaks }

/-- Two diagnostics that differ at most in how the breaks in their messages are spelled. -/
structure Diagnostic.SameButForBreaks (one other : Diagnostic) : Prop where
  ruleId : one.ruleId = other.ruleId
  start : one.start = other.start
  stop : one.stop = other.stop
  severity : one.severity = other.severity
  code : one.code = other.code
  hint : one.hint = other.hint
  category : one.category = other.category
  message : one.message.unifyBreaks = other.message.unifyBreaks

theorem Diagnostic.sameButForBreaks_of_eq {one other : Diagnostic}
    (same : one.unifyBreaks = other.unifyBreaks) : one.SameButForBreaks other := by
  obtain ⟨start, stop, message, severity, ruleId, code, hint, category⟩ := Diagnostic.mk.inj same
  exact ⟨ruleId, start, stop, severity, code, hint, category, message⟩

theorem Diagnostic.SameButForBreaks.eq_of_unbroken {one other : Diagnostic}
    (same : one.SameButForBreaks other) (unbroken : Unbroken one.message) : one = other := by
  have worded : other.message = one.message := by
    refine Text.eq_of_unifyBreaks_eq _ _ ?_ unbroken
    rw [← same.message, Text.unifyBreaks_of_unbroken _ unbroken]
  cases one
  cases other
  simp only [Diagnostic.mk.injEq]
  exact ⟨same.start, same.stop, worded.symm, same.severity, same.ruleId, same.code, same.hint,
    same.category⟩

theorem Diagnostic.forall₂_sameButForBreaks_of_map_eq (ones others : List Diagnostic)
    (same : ones.map Diagnostic.unifyBreaks = others.map Diagnostic.unifyBreaks) :
    List.Forall₂ SameButForBreaks ones others := by
  rw [← List.forall₂_eq_eq_eq, List.forall₂_map_left_iff, List.forall₂_map_right_iff] at same
  exact same.imp fun one other => sameButForBreaks_of_eq

theorem Diagnostic.eq_of_forall₂_sameButForBreaks {ones others : List Diagnostic}
    (same : List.Forall₂ SameButForBreaks ones others)
    (unbroken : ∀ one ∈ ones, Unbroken one.message) : ones = others := by
  induction same with
  | nil => rfl
  | cons first _ inductionHypothesis =>
    rw [first.eq_of_unbroken (unbroken _ List.mem_cons_self),
      inductionHypothesis fun one member => unbroken one (List.mem_cons_of_mem _ member)]

theorem Finding.UnifiesTo.placed_eq {text : Text} {here there : Finding}
    (unifies : UnifiesTo text here there) (ruleId : String) :
    there.placed ruleId text.unifyBreaks = (here.placed ruleId text).unifyBreaks := by
  rw [placed, placed, Diagnostic.unifyBreaks, unifies.message, unifies.severity, unifies.spec,
    unifies.place.1, unifies.place.2]

namespace Rule

/-! ### The rules on unified texts -/

/-- The rule finds on the unified text what it finds on the text. -/
def Unifies (rule : Rule) (text : Text) : Prop :=
  List.Forall₂ (Finding.UnifiesTo text) (rule.findings text) (rule.findings text.unifyBreaks)

theorem Unifies.report_eq {rule : Rule} {text : Text} (unifies : rule.Unifies text) :
    rule.report text.unifyBreaks = (rule.report text).map Diagnostic.unifyBreaks := by
  rw [report, report, List.map_map]
  unfold Unifies at unifies
  generalize rule.findings text = here at unifies ⊢
  generalize rule.findings text.unifyBreaks = there at unifies ⊢
  induction unifies with
  | nil => rfl
  | cons first _ inductionHypothesis =>
    rw [List.map_cons, List.map_cons, inductionHypothesis, first.placed_eq]
    rfl

/-- The messages that are no templates have no breaks in them. -/
theorem unbroken_plainSpecs : ∀ spec ∈ plainSpecs, Unbroken spec.message := by decide

theorem unifies_inheritance (label id : String) (target : Roles) (base : Text) (spec : Spec)
    (baseUnbroken : Unbroken ("extends ".toList ++ base)) (messageUnbroken : Unbroken spec.message)
    (text : Text) : (inheritance label id target base spec).Unifies text := by
  show List.Forall₂ _ (checkInheritance base spec text)
    (checkInheritance base spec text.unifyBreaks)
  rw [checkInheritance, checkInheritance,
    Text.occursIn_unifyBreaks _ baseUnbroken (List.append_ne_nil_of_left_ne_nil (by decide) base)]
  split
  · exact .nil
  · refine .cons ⟨ClassDeclaration.samePlace_find_unifyBreaks text, ?_, rfl, rfl⟩ .nil
    exact (Text.unifyBreaks_of_unbroken _ messageUnbroken).symm

theorem opensUnbroken_modelLoad : QuotedCall.OpensUnbroken QuotedCall.modelLoad := by
  constructor <;> decide

theorem opensUnbroken_directQuery : QuotedCall.OpensUnbroken QuotedCall.directQuery := by
  constructor <;> decide

theorem unifyBreaks_loadMessage (name : Text) :
    (loadMessage name).unifyBreaks = loadMessage name.unifyBreaks :=
  Text.unifyBreaks_enclosed _ name _ (by decide) (by decide)

theorem unknownLoads_unaware (text : Text) :
    unknownLoads .unaware text = QuotedCall.findAll QuotedCall.modelLoad text := by
  refine List.filter_eq_self.mpr fun call _ => ?_
  rfl

theorem unifies_modelLoadExistence (text : Text) : (modelLoadExistence .unaware).Unifies text := by
  rw [Unifies, (findsFaithfully_modelLoadExistence .unaware text).finds.findings_eq,
    (findsFaithfully_modelLoadExistence .unaware text.unifyBreaks).finds.findings_eq,
    unknownLoads_unaware, unknownLoads_unaware, List.forall₂_map_left_iff,
    List.forall₂_map_right_iff]
  refine (QuotedCall.forall₂_findAll_unifyBreaks opensUnbroken_modelLoad text).imp ?_
  intro here there same
  refine ⟨same.place, ?_, rfl, rfl⟩
  show loadMessage there.argument = (loadMessage here.argument).unifyBreaks
  rw [same.argument, unifyBreaks_loadMessage]

theorem unifies_directQueryStyle (text : Text) : directQueryStyle.Unifies text := by
  show List.Forall₂ _ (checkDirectQueries .directQuery text)
    (checkDirectQueries .directQuery text.unifyBreaks)
  rw [checkDirectQueries, checkDirectQueries, List.forall₂_map_left_iff, List.forall₂_map_right_iff]
  refine (QuotedCall.forall₂_findAll_unifyBreaks opensUnbroken_directQuery text).imp ?_
  intro here there same
  have unbroken := unbroken_plainSpecs .directQuery (by simp [plainSpecs])
  exact ⟨same.place, (Text.unifyBreaks_of_unbroken _ unbroken).symm, rfl, rfl⟩

theorem unifies_defaults (text : Text) : ∀ rule ∈ defaults .unaware, rule.Unifies text := by
  intro rule member
  simp only [defaults, List.mem_cons, List.not_mem_nil, or_false] at member
  rcases member with rfl | rfl | rfl | rfl
  · exact unifies_inheritance _ _ _ _ _ (by decide)
      (unbroken_plainSpecs _ (by simp [plainSpecs])) text
  · exact unifies_modelLoadExistence text
  · exact unifies_inheritance _ _ _ _ _ (by decide)
      (unbroken_plainSpecs _ (by simp [plainSpecs])) text
  · exact unifies_directQueryStyle text

/-- Unifying the breaks of a text unifies those of the messages, and changes nothing else. -/
theorem reportAll_unifyBreaks (text : Text) (roles : Roles) :
    reportAll text.unifyBreaks roles (defaults .unaware) =
      (reportAll text roles (defaults .unaware)).map Diagnostic.unifyBreaks := by
  rw [reportAll, reportAll]
  split
  · rw [List.map_flatMap]
    refine List.flatMap_congr fun rule member => ?_
    exact (unifies_defaults text rule (List.mem_of_mem_filter member)).report_eq
  · rfl

/-! ### Messages without breaks -/

theorem unbroken_loadMessage_iff (name : Text) : Unbroken (loadMessage name) ↔ Unbroken name :=
  Text.unbroken_enclosed_iff _ name _ (by decide) (by decide)

/-- A finding has a break in its message only if it names a model that has. -/
theorem unbroken_of_mem_findings_defaults (text : Text)
    (namesUnbroken : ∀ call ∈ QuotedCall.findAll QuotedCall.modelLoad text, Unbroken call.argument)
    (rule : Rule) (stands : rule ∈ defaults .unaware) (finding : Finding)
    (found : finding ∈ rule.findings text) : Unbroken finding.message := by
  rcases finding_cases stands found with ⟨spec, plain, span, rfl⟩ | ⟨_, call, unknown, rfl⟩
  · exact unbroken_plainSpecs spec plain
  · exact (unbroken_loadMessage_iff _).mpr (namesUnbroken call (List.mem_of_mem_filter unknown))

/-- Lines without breaks in them, joined by one spelling of the break or by another, get the same
diagnostics at the same positions. Their messages differ at most in the spelling of breaks, and not
at all if no name of a loaded model has a break in it. -/
theorem runAll_joinWith_breakSpellings (lines : List Text)
    (unbroken : ∀ line ∈ lines, Unbroken line) (path first second : Text)
    (firstSpelled : first ∈ Text.breakSpellings) (secondSpelled : second ∈ Text.breakSpellings) :
    ∃ ones others,
      runAll (Text.joinWith first lines) (Roles.ofPath path) (defaults .unaware) = .ok ones ∧
      runAll (Text.joinWith second lines) (Roles.ofPath path) (defaults .unaware) = .ok others ∧
      List.Forall₂ Diagnostic.SameButForBreaks ones others ∧
      ((∀ call ∈ QuotedCall.findAll QuotedCall.modelLoad (Text.joinWith first lines),
        Unbroken call.argument) → ones = others) := by
  refine ⟨_, _, runAll_eq _ _ _ (soundOn_defaults _ _), runAll_eq _ _ _ (soundOn_defaults _ _), ?_⟩
  have same : List.Forall₂ Diagnostic.SameButForBreaks
      (reportAll (Text.joinWith first lines) (Roles.ofPath path) (defaults .unaware))
      (reportAll (Text.joinWith second lines) (Roles.ofPath path) (defaults .unaware)) := by
    refine Diagnostic.forall₂_sameButForBreaks_of_map_eq _ _ ?_
    rw [← reportAll_unifyBreaks, ← reportAll_unifyBreaks,
      Text.unifyBreaks_joinWith first firstSpelled lines unbroken,
      Text.unifyBreaks_joinWith second secondSpelled lines unbroken]
  refine ⟨same, fun namesUnbroken => Diagnostic.eq_of_forall₂_sameButForBreaks same ?_⟩
  intro diagnostic member
  obtain ⟨rule, stands, reported⟩ := exists_rule_of_mem_reportAll member
  obtain ⟨finding, found, rfl⟩ := List.mem_map.mp reported
  exact unbroken_of_mem_findings_defaults _ namesUnbroken rule stands finding found

-- A class whose name stands on the next line, and a load.
theorem runAll_joinWith_breakSpellings_controller :
    ∃ ones others,
      runAll (Text.joinWith "\n".toList ["class".toList, "Blog".toList,
        "$this->load->model('a');".toList]) (Roles.ofPath "controllers/Blog.php".toList)
        (defaults .unaware) = .ok ones ∧
      runAll (Text.joinWith "\r\n".toList ["class".toList, "Blog".toList,
        "$this->load->model('a');".toList]) (Roles.ofPath "controllers/Blog.php".toList)
        (defaults .unaware) = .ok others ∧
      ones = others := by
  obtain ⟨ones, others, first, second, _, same⟩ := runAll_joinWith_breakSpellings
    ["class".toList, "Blog".toList, "$this->load->model('a');".toList] (by decide)
    "controllers/Blog.php".toList "\n".toList "\r\n".toList (by decide) (by decide)
  exact ⟨ones, others, first, second, same (by decide)⟩

end Rule

end IgniterLint
