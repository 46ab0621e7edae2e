/-
This file is the command line. It checks the files that its arguments name and prints one report
line for each diagnostic. A file that cannot be read is reported on the error stream, and the others
are checked all the same; the exit code tells afterwards.
-/

import IgniterLint.CommandLine.Arguments
import IgniterLint.File.System

namespace IgniterLint.CommandLine

/-- What a run leaves behind. -/
structure Outcome where
  exitCode : Nat
  output : Text
  errors : Text
deriving DecidableEq, Repr

/-- Lines as a stream, each with its end. -/
def stream (lines : List Text) : Text := lines.flatMap (· ++ ['\n'])

/-- How the program is called. -/
def usage : Text := "usage: ci3lint [-h] [-v] paths [paths ...]".toList

/-- What help prints. -/
def helpLines : List Text :=
  [usage, [],
   "Check CodeIgniter 3 controllers and models for framework conventions.".toList, [],
   "positional arguments:".toList,
   "  paths          PHP files or directories to analyze".toList, [],
   "options:".toList,
   "  -h, --help     show this help message and exit".toList,
   "  -v, --verbose  Enable debug logging".toList]

/-- The outcome of help. -/
def helpOutcome : Outcome := ⟨0, stream helpLines, []⟩

/-- The outcome of arguments that cannot be read. -/
def usageOutcome (fault : ArgumentFault) : Outcome :=
  ⟨2, [], stream [usage, "ci3lint: error: ".toList ++ fault.message]⟩

/-- What one file contributes to a run. -/
structure FileReport where
  /-- the report lines of its diagnostics -/
  output : List Text
  /-- the line that says it could not be read, or the line for the log -/
  errors : List Text
  readable : Bool
  hasErrors : Bool
deriving DecidableEq, Repr

/-- Checks one file. What keeps it from being read may concern that file alone; anything else stops
the whole run. -/
def checkFile (system : FileSystem) (verbose : Bool) (path : Path) :
    Except RunFault FileReport :=
  match system.document path with
  | .error fault =>
    if fault.concernsFile then
      .ok ⟨[], [path.render ++ ": cannot read file: ".toList ++ fault.message], false, false⟩
    else .error (.file fault)
  | .ok document =>
    match Analysis.ofDocument document (some (Rule.defaults .unaware)) none with
    | .error fault => .error (.check fault)
    | .ok analysis =>
      let logged := "DEBUG ci3lint: ".toList ++ path.render ++ " classified as ".toList ++
        analysis.roles.name
      .ok ⟨analysis.report, if verbose then [logged] else [], true, analysis.hasErrors⟩

/-- The exit code of a run: two if a file could not be read, one if there were errors, else zero. -/
def exitCodeOf (reports : List FileReport) : Nat :=
  if reports.any (!·.readable) then 2 else if reports.any (·.hasErrors) then 1 else 0

/-- Checks the files that the paths stand for. -/
def check (system : FileSystem) (verbose : Bool) (paths : List Text) : Except RunFault Outcome := do
  let files ← (system.expand paths).mapError .file
  let reports ← files.mapM (checkFile system verbose)
  let output := reports.flatMap (·.output)
  let summary :=
    "INFO ci3lint: ".toList ++ Text.ofNat output.length ++ " diagnostic(s) reported".toList
  return {
    exitCode := exitCodeOf reports
    output := stream output
    errors := stream (reports.flatMap (·.errors) ++ if verbose then [summary] else []) }

/-- Runs the command line on its arguments. -/
def run (system : FileSystem) (arguments : List Text) : Except RunFault Outcome :=
  match parse arguments with
  | .error fault => .ok (usageOutcome fault)
  | .ok .help => .ok helpOutcome
  | .ok (.check verbose paths) => check system verbose paths

end IgniterLint.CommandLine
