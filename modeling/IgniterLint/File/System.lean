/-
This file says what the library asks of a file system: whether a path is a folder, which source
files lie below one, and the bytes of a file. A tree of files answers all three, and the answers
then depend on the tree alone. On top of them stand the expansion of paths and the reading of
documents.
-/

import IgniterLint.Analysis
import IgniterLint.File.Tree

namespace IgniterLint

/-- The questions that a file system answers. -/
structure FileSystem where
  /-- whether the path leads to a folder -/
  isFolder : Path → Except FileFault Bool
  /-- the names that lead from a folder to the source files below it -/
  sourceFiles : Path → Except FileFault (List (List Text))
  /-- the bytes of the file at a path -/
  read : Path → Except FileFault (List UInt8)

/-- A tree of files as a file system. -/
def Tree.fileSystem (tree : Tree) : FileSystem where
  isFolder := tree.isFolder
  sourceFiles := tree.sourceFilesAt
  read := tree.read

namespace FileSystem

/-- The files that a path stands for: a folder for the source files below it, in order, and anything
else for itself. -/
def expandPath (system : FileSystem) (path : Path) : Except FileFault (List Path) := do
  if ← system.isFolder path then
    let found ← system.sourceFiles path
    return (found.mergeSort Path.namesPrecede).map path.append
  else return [path]

/-- The files that a list of written paths stands for. -/
def expand (system : FileSystem) (paths : List Text) : Except FileFault (List Path) := do
  let expanded ← paths.mapM fun path => system.expandPath (Path.ofText path)
  return expanded.flatten

/-- The language of the file at a path. -/
def languageOf (path : Path) : String :=
  if path.ending = Roles.sourceEnding then Document.sourceLanguage else Document.plainLanguage

/-- Reads a file as a document. -/
def document (system : FileSystem) (path : Path) : Except FileFault Document := do
  let bytes ← system.read path
  match Utf8.decode bytes with
  | .error fault => throw (.encoding fault)
  | .ok text => return ⟨path.render, Utf8.dropMark text, languageOf path⟩

/-- Reads a file and checks it by rules already known to be sound. -/
def analyzeFile (system : FileSystem) (rules : List Rule) (path : Path) :
    Except RunFault Analysis := do
  let document ← (system.document path).mapError .file
  (Analysis.ofDocument document (some rules) none).mapError .check

/-- Checks the files that the paths stand for. The rules are settled before anything is read. -/
def analyze (system : FileSystem) (paths : List Text) (rules : Option (List Rule))
    (registry : Option Registry) : Except RunFault (List Analysis) := do
  let rules ← (Rule.resolve rules registry).mapError .check
  let files ← (system.expand paths).mapError .file
  files.mapM (system.analyzeFile rules)

end FileSystem

end IgniterLint
