/-
This file says what a check of files comes to. Legible files are checked by the rules that stand by
default; each of the others is complained about once. The files do not get in each other's way, so
the output is that of the legible files alone, and only an illegible file shows in the exit code.

Only a fault that concerns more than its file stops a check on its way. Such faults are left out
here.
-/

import Mathlib.Data.List.Forall2
import IgniterLint.CommandLine
import IgniterLint.Proofs.File.Document

namespace IgniterLint

namespace CommandLine

/-! ### One file -/

variable {system : FileSystem} {path : Path}

/-- The line that reports a file that cannot be read. -/
def complaint (path : Path) (fault : FileFault) : Text :=
  path.render ++ ": cannot read file: ".toList ++ fault.message

/-- The line is the complaint about a path that cannot be read as a document. -/
def Complains (system : FileSystem) (path : Path) (line : Text) : Prop :=
  ∃ fault, system.document path = .error fault ∧ line = complaint path fault

theorem exists_checkFile_of_ok (verbose : Bool) {document : Document}
    (read : system.document path = .ok document) :
    ∃ report, checkFile system verbose path = .ok report ∧
      report.output = (Analysis.byDefaults document).report ∧
      (verbose = false → report.errors = []) ∧
      report.readable = true ∧ report.hasErrors = false := by
  rw [checkFile, read]
  dsimp only
  rw [Analysis.ofDocument_byDefaults]
  refine ⟨_, rfl, rfl, fun quiet => ?_, rfl, Analysis.hasErrors_byDefaults document⟩
  rw [quiet]
  rfl

theorem checkFile_of_error (verbose : Bool) {fault : FileFault}
    (failed : system.document path = .error fault) (alone : fault.concernsFile = true) :
    checkFile system verbose path = .ok ⟨[], [complaint path fault], false, false⟩ := by
  rw [checkFile, failed]
  exact if_pos alone

/-! ### All files -/

/-- What checking files one by one comes to. -/
structure Checked (system : FileSystem) (verbose : Bool) (files : List Path)
    (reports : List FileReport) (analyses : List Analysis) (complaints : List Text) : Prop where
  checked : files.mapM (checkFile system verbose) = .ok reports
  analyzed : (files.filter system.isLegible).mapM
    (system.analyzeFile (Rule.defaults .unaware)) = .ok analyses
  complained : List.Forall₂ (Complains system) (files.filter fun path => !system.isLegible path)
    complaints
  output : reports.flatMap (·.output) = analyses.flatMap Analysis.report
  errors : verbose = false → reports.flatMap (·.errors) = complaints
  readable : reports.any (!·.readable) = files.any fun path => !system.isLegible path
  hasErrors : reports.any (·.hasErrors) = false

namespace Checked

variable {verbose : Bool} {files : List Path} {reports : List FileReport} {analyses : List Analysis}
  {complaints : List Text}

theorem nil (system : FileSystem) (verbose : Bool) : Checked system verbose [] [] [] [] :=
  ⟨rfl, rfl, .nil, rfl, fun _ => rfl, rfl, rfl⟩

/-- A legible file adds its analysis. -/
theorem cons_legible (rest : Checked system verbose files reports analyses complaints)
    {document : Document} (read : system.document path = .ok document) :
    ∃ report, Checked system verbose (path :: files) (report :: reports)
      (Analysis.byDefaults document :: analyses) complaints := by
  obtain ⟨report, checkedHere, output, errors, readable, hasErrors⟩ :=
    exists_checkFile_of_ok verbose read
  have legible := FileSystem.isLegible_of_ok read
  refine ⟨report, ?_, ?_, ?_, ?_, ?_, ?_, ?_⟩
  · rw [List.mapM_cons, checkedHere, rest.checked]
    rfl
  · rw [List.filter_cons_of_pos legible, List.mapM_cons, FileSystem.analyzeFile_of_ok read,
      rest.analyzed]
    rfl
  · rw [List.filter_cons_of_neg (by simp [legible])]
    exact rest.complained
  · rw [List.flatMap_cons, List.flatMap_cons, output, rest.output]
  · intro quiet
    rw [List.flatMap_cons, errors quiet, List.nil_append, rest.errors quiet]
  · rw [List.any_cons, List.any_cons, readable, rest.readable, legible]
  · rw [List.any_cons, hasErrors, rest.hasErrors, Bool.false_or]

/-- An illegible file adds its complaint. -/
theorem cons_illegible (rest : Checked system verbose files reports analyses complaints)
    {fault : FileFault} (failed : system.document path = .error fault)
    (alone : fault.concernsFile = true) :
    Checked system verbose (path :: files) (⟨[], [complaint path fault], false, false⟩ :: reports)
      analyses (complaint path fault :: complaints) := by
  have checkedHere := checkFile_of_error verbose failed alone
  have illegible := FileSystem.isLegible_of_error failed
  constructor
  · rw [List.mapM_cons, checkedHere, rest.checked]
    rfl
  · rw [List.filter_cons_of_neg (by simp [illegible])]
    exact rest.analyzed
  · rw [List.filter_cons_of_pos (by simp [illegible])]
    exact .cons ⟨fault, failed, rfl⟩ rest.complained
  · rw [List.flatMap_cons, List.nil_append, rest.output]
  · intro quiet
    rw [List.flatMap_cons, rest.errors quiet, List.singleton_append]
  · rw [List.any_cons, List.any_cons, rest.readable, illegible]
  · rw [List.any_cons, rest.hasErrors, Bool.false_or]

end Checked

/-- Each of the files is read, or what keeps it from being read concerns it alone. -/
def FailAlone (system : FileSystem) (files : List Path) : Prop :=
  ∀ path ∈ files, ∀ fault, system.document path = .error fault → fault.concernsFile = true

theorem exists_checked (verbose : Bool) {files : List Path} (failAlone : FailAlone system files) :
    ∃ reports analyses complaints, Checked system verbose files reports analyses complaints := by
  induction files with
  | nil => exact ⟨[], [], [], .nil system verbose⟩
  | cons path files inductionHypothesis =>
    obtain ⟨failsAlone, othersFailAlone⟩ := List.forall_mem_cons.mp failAlone
    obtain ⟨reports, analyses, complaints, rest⟩ := inductionHypothesis othersFailAlone
    cases read : system.document path with
    | ok document =>
      obtain ⟨report, whole⟩ := rest.cons_legible read
      exact ⟨_, _, _, whole⟩
    | error fault => exact ⟨_, _, _, rest.cons_illegible read (failsAlone fault read)⟩

/-! ### The outcome -/

/-- The output and the exit code, told by the files alone: the reports of the legible ones, and
whether there are others. -/
structure Outcome.Tells (outcome : Outcome) (system : FileSystem) (files : List Path)
    (analyses : List Analysis) : Prop where
  analyzed : (files.filter system.isLegible).mapM
    (system.analyzeFile (Rule.defaults .unaware)) = .ok analyses
  output : outcome.output = stream (analyses.flatMap Analysis.report)
  exitCode : outcome.exitCode = if ∃ path ∈ files, system.isLegible path = false then 2 else 0

/-- The error stream holds one complaint about each illegible file, in order, and nothing else. -/
def Outcome.ComplainsOf (outcome : Outcome) (system : FileSystem) (files : List Path) : Prop :=
  ∃ complaints, outcome.errors = stream complaints ∧
    List.Forall₂ (Complains system) (files.filter fun path => !system.isLegible path) complaints

theorem Checked.exitCodeOf_eq {verbose : Bool} {files : List Path} {reports : List FileReport}
    {analyses : List Analysis} {complaints : List Text}
    (whole : Checked system verbose files reports analyses complaints) :
    exitCodeOf reports = if ∃ path ∈ files, system.isLegible path = false then 2 else 0 := by
  rw [exitCodeOf, whole.readable, whole.hasErrors]
  simp only [List.any_eq_true, Bool.not_eq_true', Bool.false_eq_true, if_false]

/-- A check of files that fail alone returns, whatever is wrong with them. -/
theorem exists_check_eq (verbose : Bool) {paths : List Text} {files : List Path}
    (expanded : system.expand paths = .ok files) (failAlone : FailAlone system files) :
    ∃ outcome analyses, check system verbose paths = .ok outcome ∧
      outcome.Tells system files analyses ∧
      (verbose = false → outcome.ComplainsOf system files) := by
  obtain ⟨reports, analyses, complaints, whole⟩ := exists_checked verbose failAlone
  rw [check, expanded]
  simp only [Except.mapError, bind, Except.bind]
  rw [whole.checked]
  refine ⟨_, analyses, rfl, ⟨whole.analyzed, ?_, whole.exitCodeOf_eq⟩, ?_⟩
  · rw [whole.output]
  · rintro rfl
    refine ⟨complaints, ?_, whole.complained⟩
    simp [whole.errors rfl]

/-- Where every file is legible, an analysis of the same paths gives the same results. -/
theorem Outcome.Tells.analyze_eq {outcome : Outcome} {paths : List Text} {files : List Path}
    {analyses : List Analysis} (tells : outcome.Tells system files analyses)
    (expanded : system.expand paths = .ok files)
    (legible : ∀ path ∈ files, system.isLegible path = true) :
    system.analyze paths none none = .ok analyses := by
  rw [FileSystem.analyze, expanded]
  have analyzed := tells.analyzed
  rw [List.filter_eq_self.mpr legible] at analyzed
  exact analyzed

/-- Where every file is legible, there is nothing but their reports. -/
theorem Outcome.Tells.eq_of_legible {outcome : Outcome} {files : List Path}
    {analyses : List Analysis} (tells : outcome.Tells system files analyses)
    (complains : outcome.ComplainsOf system files)
    (legible : ∀ path ∈ files, system.isLegible path = true) :
    outcome = ⟨0, stream (analyses.flatMap Analysis.report), []⟩ := by
  have none : ¬ ∃ path ∈ files, system.isLegible path = false := by
    rintro ⟨path, member, illegible⟩
    exact Bool.noConfusion ((legible path member).symm.trans illegible)
  have nothing : files.filter (fun path => !system.isLegible path) = [] :=
    List.filter_eq_nil_iff.mpr fun path member => by simp [legible path member]
  obtain ⟨complaints, errors, complained⟩ := complains
  rw [nothing, List.forall₂_nil_left_iff] at complained
  obtain ⟨exitCode, output, errorStream⟩ := outcome
  rw [Outcome.mk.injEq]
  refine ⟨?_, tells.output, ?_⟩
  · exact tells.exitCode.trans (if_neg none)
  · rw [complained] at errors
    exact errors

end CommandLine

end IgniterLint
