/-
This file models a tree of files in which a program runs. The tree has a top, and one of its folders
is the one where the program is: a path starts at the top or there, and is followed name by name. A
path that is too long as a whole is not followed at all.

A tree of files answers whether a path is a folder, which source files lie below one, and what the
bytes of a file are. A search calls itself for every folder that it enters, and the program can do
that only so often: what lies deeper than this makes the search fail.
-/

import IgniterLint.File.Folder
import IgniterLint.Roles

namespace IgniterLint

/-- The files that a program finds, and how far it can go in them. -/
structure Tree where
  top : Folder
  /-- the names that lead from the top to the folder where the program runs -/
  here : List Text
  /-- how many folders deep a search can go -/
  reach : Nat
  stands : ∃ inside above, top.follow here = .ok (.within inside above)

namespace Tree

/-- The names that lead from the top to where a path starts. -/
def start (tree : Tree) : Root → List Text
  | .here => tree.here
  | .top | .doubleTop => []

/-- The bytes that a written path has to stay below. -/
def pathLimit : Nat := 4096

/-- Whether the path as a whole has more bytes than the system takes. -/
def isPathTooLong (path : Path) : Bool := pathLimit ≤ Utf8.size path.render

/-- Follows a whole path. -/
def resolve (tree : Tree) (path : Path) : Except SystemFault Folder.Place :=
  if isPathTooLong path then .error .nameTooLong
  else tree.top.follow (tree.start path.root ++ path.names)

/-- Whether the path leads to a folder. One that leads nowhere does not, but a path that is too
long, or has a name that is, makes a fault. -/
def isFolder (tree : Tree) (path : Path) : Except FileFault Bool :=
  if path.hasNull then .ok false
  else
    match tree.resolve path with
    | .ok (.within _ _) => .ok true
    | .ok (.atFile _) => .ok false
    | .error .nameTooLong => .error (.system .nameTooLong path)
    | .error _ => .ok false

/-- What makes a step of a search below the path fail. -/
def faultOf (tree : Tree) (path : Path) : Folder.Look → Option FileFault
  | .entry names =>
    if isPathTooLong (path.append names) then
      some (.system .nameTooLong (path.append names))
    else none
  | .inside names => if tree.reach < names.length then some .tooDeep else none

/-- The names that lead from the folder at the path to the source files below it. The first step of
the search that fails makes it fail as a whole. -/
def sourceFilesAt (tree : Tree) (path : Path) : Except FileFault (List (List Text)) :=
  match tree.resolve path with
  | .ok (.within here _) =>
    match (here.searched Roles.sourceEnding).findSome? (tree.faultOf path) with
    | some fault => .error fault
    | none => .ok (here.sourceFiles Roles.sourceEnding)
  | _ => .ok []

/-- The bytes of the file at the path. -/
def read (tree : Tree) (path : Path) : Except FileFault (List UInt8) :=
  if path.hasNull then .error .nullInPath
  else
    match tree.resolve path with
    | .ok (.atFile (.bytes bytes)) => .ok bytes
    | .ok (.atFile (.fault cause)) => .error (.system cause path)
    | .ok (.within _ _) => .error (.system .isAFolder path)
    | .error cause => .error (.system cause path)

end Tree

end IgniterLint
