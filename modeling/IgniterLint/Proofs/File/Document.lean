/-
This file says what comes of reading a file and checking it. A file is legible if it can be read and
its bytes are text. A legible file makes a document, filed under its own path, and the rules that
stand by default check every document: they do not fail, and nothing that they report is an error.
-/

import IgniterLint.File.System
import IgniterLint.Proofs.Analysis.Faithful

namespace IgniterLint

/-! ### Checks by default -/

/-- No rule that stands by default reports an error. -/
theorem Rule.severity_ne_error {registry : Registry} {text : Text} {rule : Rule}
    (stands : rule ∈ Rule.defaults registry) {finding : Finding}
    (found : finding ∈ rule.findings text) : finding.severity ≠ .error := by
  have mild : ∀ spec ∈ Rule.plainSpecs, spec.severity ≠ .error := by decide
  rcases Rule.finding_cases stands found with ⟨spec, plain, span, rfl⟩ | ⟨_, call, _, rfl⟩
  · exact mild spec plain
  · exact Severity.noConfusion

namespace Analysis

/-- What the rules that stand by default have to say about a document. -/
def byDefaults (document : Document) : Analysis :=
  ⟨document, Roles.ofPath document.identity,
    Rule.reportAll document.text (Roles.ofPath document.identity) (Rule.defaults .unaware)⟩

theorem ofDocument_byDefaults (document : Document) :
    ofDocument document (some (Rule.defaults .unaware)) none = .ok (byDefaults document) :=
  ofDocument_defaults document none

theorem hasErrors_byDefaults (document : Document) : (byDefaults document).hasErrors = false := by
  rw [hasErrors, Diagnostic.hasErrors, List.any_eq_false]
  intro diagnostic member
  obtain ⟨rule, stands, reported⟩ := Rule.exists_rule_of_mem_reportAll member
  obtain ⟨finding, found, rfl⟩ := List.mem_map.mp reported
  rw [beq_iff_eq]
  exact Rule.severity_ne_error stands found

end Analysis

/-! ### Legible files -/

namespace FileSystem

variable {system : FileSystem} {path : Path}

/-- Whether the file can be read and its bytes are text. -/
def isLegible (system : FileSystem) (path : Path) : Bool :=
  match system.read path with
  | .ok bytes => (Utf8.decode bytes).isOk
  | .error _ => false

theorem isLegible_eq (system : FileSystem) (path : Path) :
    system.isLegible path = (system.document path).isOk := by
  rw [isLegible, document]
  cases system.read path with
  | error fault => rfl
  | ok bytes =>
    dsimp only [bind, Except.bind]
    cases Utf8.decode bytes with
    | error fault => rfl
    | ok text => rfl

theorem isLegible_of_ok {document : Document} (read : system.document path = .ok document) :
    system.isLegible path = true := by
  rw [isLegible_eq, read]
  rfl

theorem isLegible_of_error {fault : FileFault} (failed : system.document path = .error fault) :
    system.isLegible path = false := by
  rw [isLegible_eq, failed]
  rfl

theorem analyzeFile_of_ok {document : Document} (read : system.document path = .ok document) :
    system.analyzeFile (Rule.defaults .unaware) path = .ok (Analysis.byDefaults document) := by
  rw [analyzeFile, read]
  show Except.mapError _ (Analysis.ofDocument _ _ _) = _
  rw [Analysis.ofDocument_byDefaults]
  rfl

theorem identity_and_language_of_document {document : Document}
    (read : system.document path = .ok document) :
    document.identity = path.render ∧ document.language = languageOf path := by
  obtain ⟨bytes, _, decoded⟩ := bind_eq_ok_iff.mp read
  split at decoded
  · exact nomatch decoded
  · obtain rfl := Except.ok.inj decoded
    exact ⟨rfl, rfl⟩

theorem exists_document_of_analyzeFile {analysis : Analysis}
    (analyzed : system.analyzeFile (Rule.defaults .unaware) path = .ok analysis) :
    ∃ document, document.identity = path.render ∧ analysis = Analysis.byDefaults document := by
  cases read : system.document path with
  | error fault =>
    rw [analyzeFile, read] at analyzed
    exact nomatch analyzed
  | ok document =>
    obtain rfl := Except.ok.inj ((analyzeFile_of_ok read).symm.trans analyzed)
    exact ⟨document, (identity_and_language_of_document read).1, rfl⟩

end FileSystem

end IgniterLint
