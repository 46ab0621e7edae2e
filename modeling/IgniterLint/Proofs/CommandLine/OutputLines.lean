/-
This file counts the lines that a check prints. Every diagnostic makes one entry of the report, and
every entry is printed with a line feed behind it. So there is one line for each diagnostic exactly
when no entry has a break of its own. The path, the position, the grade, the rule and the fixed
messages have none; what is left is the name of a loaded model, which is copied from the source and
may run over the end of a line.
-/

import IgniterLint.Proofs.Analysis.LineEndings
import IgniterLint.Proofs.CommandLine.Check

namespace IgniterLint

open Text (CutsBreak Unbroken)

namespace Text

/-! ### Counting lines -/

/-- How many lines of the text are ended by a break. -/
def endedLines (text : Text) : Nat := text.lines.countP fun line => !line.ending.isEmpty

theorem endedLines_eq_count (text : Text) : text.endedLines = text.unifyBreaks.count '\n' := by
  induction text using breakInduction with
  | nil => rfl
  | pair rest inductionHypothesis =>
    rw [endedLines, lines_pair, unifyBreaks_pair, List.count_cons_self, ← inductionHypothesis]
    exact List.countP_cons_of_pos rfl
  | char c rest apart inductionHypothesis =>
    rw [endedLines, lines_cons _ _ apart, unifyBreaks_cons _ _ apart]
    by_cases broken : c = '\r' ∨ c = '\n'
    · have unified : (if c = '\r' then '\n' else c) = '\n' := by
        rcases broken with rfl | rfl <;> rfl
      rw [if_pos broken, unified, List.count_cons_self, ← inductionHypothesis]
      exact List.countP_cons_of_pos rfl
    · -- A character that breaks nothing goes to the first line, and how that line ends stays.
      obtain ⟨first, others, split⟩ := List.exists_cons_of_ne_nil rest.lines_ne_nil
      rw [not_or] at broken
      rw [if_neg (not_or.mpr broken), if_neg broken.1, List.count_cons_of_ne broken.2,
        ← inductionHypothesis, endedLines, split, List.modifyHead_cons, List.countP_cons,
        List.countP_cons]
      rfl

theorem endedLines_append (before after : Text) (whole : ¬ CutsBreak before after) :
    (before ++ after).endedLines = before.endedLines + after.endedLines := by
  rw [endedLines_eq_count, endedLines_eq_count, endedLines_eq_count,
    unifyBreaks_append _ _ whole, List.count_append]

theorem endedLines_eq_zero_iff (text : Text) : text.endedLines = 0 ↔ Unbroken text := by
  rw [endedLines_eq_count, List.count_eq_zero]
  constructor
  · intro noFeed
    refine unbroken_of_unifyBreaks text fun c member => ⟨?_, ?_⟩
    · rintro rfl
      exact return_notMem_unifyBreaks text member
    · rintro rfl
      exact noFeed member
  · intro unbroken member
    rw [unifyBreaks_of_unbroken text unbroken] at member
    exact (unbroken '\n' member).2 rfl

theorem unbroken_ofNat (n : Nat) : Unbroken (ofNat n) := by
  intro c member
  have digit := Nat.isDigit_of_mem_toDigits (by decide) (by decide) member
  refine ⟨?_, ?_⟩ <;> rintro rfl <;> exact absurd digit (by decide)

end Text

namespace CommandLine

theorem endedLines_stream_cons {line : Text} (closed : line.getLast? ≠ some '\r')
    (rest : List Text) :
    (stream (line :: rest)).endedLines = line.endedLines + 1 + (stream rest).endedLines := by
  -- Behind a carriage return the line feed would only complete a break that is counted already.
  have lineWhole : ¬ CutsBreak line ("\n".toList ++ stream rest) := fun cut => closed cut.1
  have feedWhole : ¬ CutsBreak "\n".toList (stream rest) := fun cut => absurd cut.1 (by decide)
  have one : Text.endedLines "\n".toList = 1 := by decide
  have split : stream (line :: rest) = line ++ ("\n".toList ++ stream rest) := by
    rw [stream, List.flatMap_cons, List.append_assoc]
    rfl
  rw [split, Text.endedLines_append _ _ lineWhole, Text.endedLines_append _ _ feedWhole, one,
    Nat.add_assoc]

theorem length_le_endedLines_stream {lines : List Text}
    (closed : ∀ line ∈ lines, line.getLast? ≠ some '\r') :
    lines.length ≤ (stream lines).endedLines := by
  induction lines with
  | nil => exact Nat.zero_le _
  | cons line rest inductionHypothesis =>
    obtain ⟨here, there⟩ := List.forall_mem_cons.mp closed
    have upTo := inductionHypothesis there
    rw [endedLines_stream_cons here, List.length_cons]
    omega

/-- A stream has as many lines as it was made of exactly when none of them has a break in it. -/
theorem endedLines_stream_eq_length_iff {lines : List Text}
    (closed : ∀ line ∈ lines, line.getLast? ≠ some '\r') :
    (stream lines).endedLines = lines.length ↔ ∀ line ∈ lines, Unbroken line := by
  induction lines with
  | nil => exact ⟨fun _ line member => absurd member List.not_mem_nil, fun _ => rfl⟩
  | cons line rest inductionHypothesis =>
    obtain ⟨here, there⟩ := List.forall_mem_cons.mp closed
    have upTo := length_le_endedLines_stream there
    rw [endedLines_stream_cons here, List.length_cons, List.forall_mem_cons,
      ← inductionHypothesis there, ← line.endedLines_eq_zero_iff]
    omega

end CommandLine

/-! ### The entries of a report -/

namespace Diagnostic

theorem unbroken_format_iff {path : Text} (pathUnbroken : Unbroken path) {diagnostic : Diagnostic}
    (signed : Unbroken diagnostic.ruleId.toList) :
    Unbroken (diagnostic.format path) ↔ Unbroken diagnostic.message := by
  have graded : Unbroken diagnostic.severity.word := by cases diagnostic.severity <;> decide
  have displayed : Unbroken diagnostic.start.display := by
    rw [Position.display, Text.unbroken_append_iff, Text.unbroken_append_iff]
    exact ⟨⟨Text.unbroken_ofNat _, by decide⟩, Text.unbroken_ofNat _⟩
  have colon : Unbroken ":".toList := by decide
  have space : Unbroken ": ".toList := by decide
  have opening : Unbroken " [".toList := by decide
  have closing : Unbroken "] ".toList := by decide
  simp only [format, Text.unbroken_append_iff, pathUnbroken, signed, graded, displayed, colon,
    space, opening, closing, true_and]

end Diagnostic

namespace Rule

theorem unbroken_id {registry : Registry} :
    ∀ rule ∈ defaults registry, Unbroken rule.id.toList := by
  intro rule stands
  have ids : rule.id ∈ (defaults registry).map (·.id) := List.mem_map_of_mem stands
  have unbroken : ∀ id ∈ ["ControllerInheritanceRule", "ModelLoadExistenceRule",
      "ModelInheritanceRule", "DirectQueryStyleRule"], Unbroken id.toList := by decide
  exact unbroken rule.id ids

theorem getLast?_loadMessage (name : Text) : (loadMessage name).getLast? = some 't' :=
  List.getLast?_append_of_ne_nil ("Model '".toList ++ name) (by decide)

/-- No message of a rule that stands by default ends with a carriage return. -/
theorem getLast?_message_ne {registry : Registry} {text : Text} {rule : Rule}
    (stands : rule ∈ defaults registry) {finding : Finding}
    (found : finding ∈ rule.findings text) : finding.message.getLast? ≠ some '\r' := by
  rcases finding_cases stands found with ⟨spec, plain, span, rfl⟩ | ⟨_, call, _, rfl⟩
  · intro isReturn
    exact (unbroken_plainSpecs spec plain '\r' (List.mem_of_getLast? isReturn)).1 rfl
  · intro isReturn
    exact absurd ((getLast?_loadMessage call.argument).symm.trans isReturn) (by decide)

/-- The messages about a text are without breaks exactly when the names of the models that it loads
are, or the text is no controller's. -/
theorem unbroken_reportAll_iff (text : Text) (roles : Roles) :
    (∀ diagnostic ∈ reportAll text roles (defaults .unaware), Unbroken diagnostic.message) ↔
      (roles.controller = true →
        ∀ call ∈ QuotedCall.findAll QuotedCall.modelLoad text, Unbroken call.argument) := by
  have applies : (modelLoadExistence .unaware).appliesTo roles = roles.controller := by
    obtain ⟨controller, model⟩ := roles
    cases controller <;> cases model <;> rfl
  constructor
  · intro unbroken isController call loaded
    have stands : modelLoadExistence .unaware ∈ defaults .unaware := by simp [defaults]
    have found : loadFinding call ∈ (unknownLoads .unaware text).map loadFinding := by
      rw [unknownLoads_unaware]
      exact List.mem_map_of_mem loaded
    obtain ⟨diagnostic, member, placed⟩ := exists_diagnostic_of_mem_findings stands
      (applies.trans isController) (checkModelLoads_eq 0 .unaware text) found
    have message := unbroken diagnostic member
    rw [placed.worded] at message
    exact (unbroken_loadMessage_iff call.argument).mp message
  · intro namesUnbroken diagnostic member
    obtain ⟨_, rule, stands, ruleApplies, reported⟩ := mem_reportAll_iff.mp member
    obtain ⟨finding, found, rfl⟩ := List.mem_map.mp reported
    show Unbroken finding.message
    rcases finding_cases stands found with ⟨spec, plain, span, rfl⟩ | ⟨rfl, call, unknown, rfl⟩
    · exact unbroken_plainSpecs spec plain
    · rw [unknownLoads_unaware] at unknown
      exact (unbroken_loadMessage_iff call.argument).mpr
        (namesUnbroken (applies.symm.trans ruleApplies) call unknown)

end Rule

namespace Analysis

theorem getLast?_report_ne (document : Document) :
    ∀ line ∈ (byDefaults document).report, line.getLast? ≠ some '\r' := by
  intro line member
  obtain ⟨diagnostic, reported, rfl⟩ := List.mem_map.mp member
  obtain ⟨rule, stands, reported⟩ := Rule.exists_rule_of_mem_reportAll reported
  obtain ⟨finding, found, rfl⟩ := List.mem_map.mp reported
  have closed : (finding.placed rule.id document.text).message.getLast? ≠ some '\r' :=
    Rule.getLast?_message_ne stands found
  rw [Diagnostic.format, List.getLast?_append, List.getLast?_append]
  cases ends : (finding.placed rule.id document.text).message.getLast? with
  | none => exact fun isReturn => absurd (Option.some.inj isReturn) (by decide)
  | some last =>
    rw [ends] at closed
    exact closed

theorem unbroken_report_iff (document : Document) (identityUnbroken : Unbroken document.identity) :
    (∀ line ∈ (byDefaults document).report, Unbroken line) ↔
      ((byDefaults document).roles.controller = true →
        ∀ call ∈ QuotedCall.findAll QuotedCall.modelLoad document.text,
          Unbroken call.argument) := by
  refine Iff.trans ?_ (Rule.unbroken_reportAll_iff document.text _)
  rw [report, List.forall_mem_map]
  refine forall₂_congr fun diagnostic member => ?_
  obtain ⟨rule, stands, reported⟩ := Rule.exists_rule_of_mem_reportAll member
  refine Diagnostic.unbroken_format_iff identityUnbroken ?_
  rw [Rule.ruleId_of_mem_report reported]
  exact Rule.unbroken_id rule stands

end Analysis

namespace CommandLine

/-! ### One line for each diagnostic -/

/-- A check of legible files whose paths have no breaks in them returns. It prints one line for each
diagnostic exactly when no entry of the report has a break in it, and that is when no controller
among the files loads a model whose name has a break in it. -/
theorem endedLines_output_iff {system : FileSystem} {arguments paths : List Text} {verbose : Bool}
    {files : List Path} (parsed : parse arguments = .ok (.check verbose paths))
    (expanded : system.expand paths = .ok files)
    (legible : ∀ path ∈ files, system.isLegible path = true)
    (pathsUnbroken : ∀ path ∈ files, Unbroken path.render) :
    ∃ outcome analyses, run system arguments = .ok outcome ∧
      system.analyze paths none none = .ok analyses ∧
      (outcome.output.endedLines = (analyses.flatMap (·.diagnostics)).length ↔
        ∀ line ∈ analyses.flatMap Analysis.report, Unbroken line) ∧
      ((∀ line ∈ analyses.flatMap Analysis.report, Unbroken line) ↔
        ∀ analysis ∈ analyses, analysis.roles.controller = true →
          ∀ call ∈ QuotedCall.findAll QuotedCall.modelLoad analysis.document.text,
            Unbroken call.argument) := by
  have failAlone : FailAlone system files := by
    intro path member fault failed
    have illegible := FileSystem.isLegible_of_error failed
    rw [legible path member] at illegible
    exact Bool.noConfusion illegible
  obtain ⟨outcome, analyses, checked, tells, _⟩ := exists_check_eq verbose expanded failAlone
  have documents : ∀ analysis ∈ analyses, ∃ document, Unbroken document.identity ∧
      analysis = Analysis.byDefaults document := by
    intro analysis member
    obtain ⟨path, inFiles, analyzed⟩ := exists_item_of_mapM tells.analyzed member
    obtain ⟨document, identity, same⟩ := FileSystem.exists_document_of_analyzeFile analyzed
    refine ⟨document, ?_, same⟩
    rw [identity]
    exact pathsUnbroken path (List.mem_of_mem_filter inFiles)
  have closed : ∀ line ∈ analyses.flatMap Analysis.report, line.getLast? ≠ some '\r' := by
    intro line member
    obtain ⟨analysis, analyzed, reported⟩ := List.mem_flatMap.mp member
    obtain ⟨document, _, rfl⟩ := documents analysis analyzed
    exact Analysis.getLast?_report_ne document line reported
  have counted : (analyses.flatMap Analysis.report).length =
      (analyses.flatMap (·.diagnostics)).length := by
    simp [List.length_flatMap, Analysis.report]
  refine ⟨outcome, analyses, ?_, tells.analyze_eq expanded legible, ?_, ?_⟩
  · rw [run, parsed]
    exact checked
  · rw [tells.output, ← counted]
    exact endedLines_stream_eq_length_iff closed
  · rw [List.forall_mem_flatMap]
    refine forall₂_congr fun analysis member => ?_
    obtain ⟨document, identityUnbroken, rfl⟩ := documents analysis member
    exact Analysis.unbroken_report_iff document identityUnbroken

/-- Files with one controller among them, that has the given text. -/
def controllerAlone (text : Text) : FileSystem :=
  Tree.fileSystem {
    top := .folder "controllers".toList
      (.file "A.php".toList (.bytes (text.map fun c => UInt8.ofNat c.toNat)) .empty) .empty
    here := []
    reach := 1
    stands := ⟨_, _, rfl⟩ }

/-- The path of the one controller. -/
def controllerPath : Path := ⟨.here, ["controllers".toList, "A.php".toList]⟩

-- A controller that loads a model by an ordinary name.
theorem endedLines_output_plainName :
    ∃ outcome analyses,
      run (controllerAlone "$this->load->model('a')".toList) [controllerPath.render] =
        .ok outcome ∧
      (controllerAlone "$this->load->model('a')".toList).analyze [controllerPath.render] none none =
        .ok analyses ∧
      outcome.output.endedLines = (analyses.flatMap (·.diagnostics)).length := by
  have parsed : parse [controllerPath.render] = .ok (.check false [controllerPath.render]) := by
    decide
  have expanded : (controllerAlone "$this->load->model('a')".toList).expand
      [controllerPath.render] = .ok [controllerPath] := by
    rfl
  have names : ((controllerAlone "$this->load->model('a')".toList).analyze
      [controllerPath.render] none none).map (fun analyses => decide (∀ analysis ∈ analyses,
        analysis.roles.controller = true →
          ∀ call ∈ QuotedCall.findAll QuotedCall.modelLoad analysis.document.text,
            Unbroken call.argument)) = .ok true := by
    decide +kernel
  obtain ⟨outcome, analyses, ran, analyzed, counted, unbroken⟩ :=
    endedLines_output_iff parsed expanded (by decide +kernel) (by decide)
  rw [analyzed] at names
  exact ⟨outcome, analyses, ran, analyzed,
    counted.mpr (unbroken.mpr (of_decide_eq_true (Except.ok.inj names)))⟩

-- The name of the loaded model runs over the end of a line: one diagnostic, but two lines.
theorem endedLines_output_brokenName :
    Unbroken controllerPath.render ∧
      (controllerAlone "extends CI_Controller $this->load->model('a\nb')".toList).isLegible
        controllerPath = true ∧
      (run (controllerAlone "extends CI_Controller $this->load->model('a\nb')".toList)
        [controllerPath.render]).map (·.output.endedLines) = .ok 2 ∧
      ((controllerAlone "extends CI_Controller $this->load->model('a\nb')".toList).analyze
        [controllerPath.render] none none).map
          (fun analyses => (analyses.flatMap (·.diagnostics)).length) = .ok 1 := by
  refine ⟨by decide, ?_, ?_, ?_⟩ <;> decide +kernel

end CommandLine

end IgniterLint
