/-
This file runs the command line on the real file system. It looks up what the arguments name,
hands the answers to the command line as a file system of its own, and prints the outcome.
-/

import IgniterLint.CommandLine

namespace IgniterLint

/-- The system's fault behind a failed operation. -/
def systemFaultOf : IO.Error → SystemFault
  | .inappropriateType _ code _ => if code = 21 then .isAFolder else .notAFolder
  | .invalidArgument _ _ _ => .nameTooLong
  | .permissionDenied _ code wording => .other code.toNat wording.toList
  | .hardwareFault code wording | .otherError code wording => .other code.toNat wording.toList
  | _ => .missing

/-- The answers about one path. -/
structure Survey where
  path : Path
  folder : Except FileFault Bool
  sources : Except FileFault (List (List Text))

/-- The written form of a path, as the system takes it. -/
def systemName (path : Path) : String := String.ofList path.render

/-- The bytes of a file. -/
def readFile (path : Path) : IO (Except FileFault (List UInt8)) := do
  if path.hasNull then return .error .nullInPath
  else
    try
      return .ok (← IO.FS.readBinFile (systemName path)).toList
    catch fault => return .error (.system (systemFaultOf fault) path)

/-- Whether the path leads to a folder. -/
def surveyFolder (path : Path) : IO (Except FileFault Bool) := do
  if path.hasNull then return .ok false
  else
    try
      let here ← IO.FS.realPath "."
      let metadata ← (here / systemName path).metadata
      return .ok (metadata.type == .dir)
    catch fault =>
      match systemFaultOf fault with
      | .missing | .notAFolder => return .ok false
      | cause => return .error (.system cause path)

/-- What a folder lists, which is nothing if the program may not look. -/
def readEntries (path : Path) : IO (Except FileFault (Array IO.FS.DirEntry)) := do
  try
    let place ← IO.FS.realPath (systemName path)
    return .ok (← place.readDir)
  catch
    | .permissionDenied _ _ _ => return .ok #[]
    | fault => return .error (.system (systemFaultOf fault) path)

/-- The names that lead from a folder to the source files below it. -/
partial def surveySources (path : Path) : ExceptT FileFault IO (List (List Text)) := do
  let mut found : List (List Text) := []
  for entry in ← ExceptT.mk (readEntries path) do
    let name := entry.fileName.toList
    if ← entry.path.isDir then
      let below ← surveySources (path.append [name])
      found := found ++ below.map (name :: ·)
    else if Roles.sourceEnding.isSuffixOf name then
      found := found ++ [[name]]
  return found

/-- The answers about the paths that the arguments name. -/
def survey (paths : List Text) : IO (List Survey) :=
  paths.mapM fun text => do
    let path := Path.ofText text
    let folder ← surveyFolder path
    let sources ← match folder with
      | .ok true => (surveySources path).run
      | _ => pure (.ok [])
    return ⟨path, folder, sources⟩

/-- A file system that knows the surveyed paths and the files read. -/
def knownSystem (surveys : List Survey) (files : List (Path × Except FileFault (List UInt8))) :
    FileSystem where
  isFolder path :=
    match surveys.find? fun survey => survey.path == path with
    | some survey => survey.folder
    | none => .ok false
  sourceFiles path :=
    match surveys.find? fun survey => survey.path == path with
    | some survey => survey.sources
    | none => .ok []
  read path :=
    match files.lookup path with
    | some content => content
    | none => .error (.system .missing path)

/-- The paths that the arguments ask to be checked. -/
def requestedPaths (arguments : List Text) : List Text :=
  match CommandLine.parse arguments with
  | .ok (.check _ paths) => paths
  | _ => []

end IgniterLint

open IgniterLint in
/-- Runs the command line. -/
def main (arguments : List String) : IO UInt32 := do
  let arguments := arguments.map String.toList
  let paths := requestedPaths arguments
  let surveys ← survey paths
  let expanded := match (knownSystem surveys []).expand paths with
    | .ok files => files
    | .error _ => []
  let files ← expanded.mapM fun path => return (path, ← readFile path)
  match CommandLine.run (knownSystem surveys files) arguments with
  | .ok outcome =>
    IO.print (String.ofList outcome.output)
    IO.eprint (String.ofList outcome.errors)
    return UInt32.ofNat outcome.exitCode
  | .error fault =>
    IO.eprintln (String.ofList fault.message)
    return 1
