/-
This file models folders, the search for source files in them, and how names are followed from one
to the next. A folder lists its entries, each a file or a folder of its own. A file gives its bytes
when it is opened, or the system has some fault to find with it. A name leads to the entry of that
name, and two dots lead to the folder above. There is nothing above the topmost folder, so there two
dots lead nowhere else.

A name behind a file, a name that is too long for the system, and a name that is not there are told
apart, and the first of them that is met is the answer.
-/

import IgniterLint.File.Fault

namespace IgniterLint

/-- What comes of opening a file. -/
inductive Content where
  | bytes (bytes : List UInt8)
  | fault (cause : SystemFault)
deriving DecidableEq, Repr

/-- The contents of a folder: nothing more, or an entry and the entries after it. -/
inductive Folder where
  | empty
  | file (name : Text) (content : Content) (rest : Folder)
  | folder (name : Text) (inside : Folder) (rest : Folder)
deriving DecidableEq, Repr

/-- What stands under a name. -/
inductive Folder.Entry where
  | file (content : Content)
  | folder (inside : Folder)
deriving DecidableEq, Repr

namespace Folder

/-- The entry of a name. -/
def find? (wanted : Text) : Folder → Option Entry
  | empty => none
  | file name content rest => if name = wanted then some (.file content) else rest.find? wanted
  | folder name inside rest => if name = wanted then some (.folder inside) else rest.find? wanted

/-- Adds an entry behind the others, or in place of the one of its name. -/
def put (wanted : Text) (entry : Entry) : Folder → Folder
  | empty =>
    match entry with
    | .file content => file wanted content empty
    | .folder inside => folder wanted inside empty
  | file name content rest =>
    if name = wanted then
      match entry with
      | .file content => file wanted content rest
      | .folder inside => folder wanted inside rest
    else file name content (rest.put wanted entry)
  | folder name inside rest =>
    if name = wanted then
      match entry with
      | .file content => file wanted content rest
      | .folder inside => folder wanted inside rest
    else folder name inside (rest.put wanted entry)

/-- The folder of a name, which is empty if there is none yet. -/
def inner (tree : Folder) (name : Text) : Folder :=
  match tree.find? name with
  | some (.folder inside) => inside
  | _ => empty

/-- Makes the folder at the end of the names, and those on the way. -/
def make : List Text → Folder → Folder
  | [], tree => tree
  | name :: names, tree => tree.put name (.folder (make names (tree.inner name)))

/-- Writes the file at the end of the names, and makes the folders on the way. -/
def write (content : List UInt8) : List Text → Folder → Folder
  | [], tree => tree
  | [name], tree => tree.put name (.file (.bytes content))
  | name :: names, tree => tree.put name (.folder (write content names (tree.inner name)))

/-- The names that lead to the source files at any depth. -/
def sourceFiles (ending : Text) : Folder → List (List Text)
  | empty => []
  | file name _ rest =>
    if ending.isSuffixOf name then [name] :: rest.sourceFiles ending else rest.sourceFiles ending
  | folder name inside rest =>
    (inside.sourceFiles ending).map (name :: ·) ++ rest.sourceFiles ending

/-- The names of the entries with the ending, files and folders alike. -/
def namesEnding (ending : Text) : Folder → List Text
  | empty => []
  | file name _ rest =>
    if ending.isSuffixOf name then name :: rest.namesEnding ending else rest.namesEnding ending
  | folder name _ rest =>
    if ending.isSuffixOf name then name :: rest.namesEnding ending else rest.namesEnding ending

/-- One step of a search, with the names that lead there from the folder where it starts. -/
inductive Look where
  /-- the search looks at an entry -/
  | entry (names : List Text)
  /-- the search goes through the inner folders of a folder -/
  | inside (names : List Text)
deriving DecidableEq, Repr

/-- The step as part of a search that starts one folder higher. -/
def Look.below (name : Text) : Look → Look
  | entry names => entry (name :: names)
  | inside names => inside (name :: names)

/-- What a search for source files does in the inner folders, one after the other: it looks at each
of them and at the entries in it with the ending, and then goes through the folders in it. -/
def searchedWithin (ending : Text) : Folder → List Look
  | empty => []
  | file _ _ rest => rest.searchedWithin ending
  | folder name inside rest =>
    let steps := (inside.namesEnding ending).map (fun entry => .entry [entry]) ++
      .inside [] :: inside.searchedWithin ending
    .entry [name] :: steps.map (Look.below name) ++ rest.searchedWithin ending

/-- All that a search for source files does, in its order: the entries with the ending come before
the inner folders. -/
def searched (ending : Text) (tree : Folder) : List Look :=
  (tree.namesEnding ending).map (fun entry => .entry [entry]) ++
    .inside [] :: tree.searchedWithin ending

/-! ### Following names -/

/-- Where names have led so far. -/
inductive Place where
  /-- in a folder, below the listed ones, the nearest first -/
  | within (here : Folder) (above : List Folder)
  /-- at a file -/
  | atFile (content : Content)
deriving DecidableEq, Repr

/-- The longest name that the system takes, in bytes. -/
def nameLimit : Nat := 255

/-- Whether the name has more bytes than the system takes. -/
def isTooLong (name : Text) : Bool := nameLimit < Utf8.size name

/-- Follows one name. -/
def step (place : Place) (name : Text) : Except SystemFault Place :=
  match place with
  | .atFile _ => .error .notAFolder
  | .within here above =>
    if name = Path.placeAbove then
      match above with
      | [] => .ok (.within here [])
      | next :: rest => .ok (.within next rest)
    else if isTooLong name then .error .nameTooLong
    else
      match here.find? name with
      | none => .error .missing
      | some (.file content) => .ok (.atFile content)
      | some (.folder inside) => .ok (.within inside (here :: above))

/-- Follows names from the topmost folder. -/
def follow (top : Folder) (names : List Text) : Except SystemFault Place :=
  names.foldlM step (.within top [])

end Folder

end IgniterLint
