/-
This file says which files a path stands for in a tree. A path that is too long for the system stops
the expansion, and so does one that leads to a folder below which the search meets such a path or
goes too deep. Every other path stands for files, and these are made of names as long as the path
and the tree are: the search only puts names of the tree behind the path. So no null character turns
up on the way, and the written form of a legible file stands for that file again.
-/

import IgniterLint.Proofs.File.Document
import IgniterLint.Proofs.File.Folder

namespace IgniterLint

open IgniterLint.Path (IsName)

/-- The faults with which a search for files ends: a path is too long, or a folder lies too deep. -/
inductive FileFault.StopsSearch : FileFault → Prop
  | nameTooLong (path : Path) : StopsSearch (.system .nameTooLong path)
  | tooDeep : StopsSearch .tooDeep

namespace Tree

open Folder (Place)

/-! ### Paths that are too much -/

/-- The path is more than the system or the search can take: it is too long, or it leads to a folder
below which the search meets a path that is, or to one in which folders lie deeper than the search
can go. -/
inductive Exceeds (tree : Tree) (path : Path) : Prop where
  | overlong (resolved : tree.resolve path = .error .nameTooLong)
  | overlongBelow {here : Folder} {above : List Folder}
      (resolved : tree.resolve path = .ok (.within here above)) {names : List Text}
      (looked : .entry names ∈ here.searched Roles.sourceEnding)
      (tooLong : isPathTooLong (path.append names) = true)
  | tooDeep {here : Folder} {above : List Folder}
      (resolved : tree.resolve path = .ok (.within here above)) (deep : tree.reach < here.depth)

/-- A path that leads to a folder is too much exactly if a step of the search below it fails. -/
theorem exceeds_iff_of_within {tree : Tree} {path : Path} {here : Folder} {above : List Folder}
    (resolved : tree.resolve path = .ok (.within here above)) :
    tree.Exceeds path ↔
      ∃ look ∈ here.searched Roles.sourceEnding, tree.faultOf path look ≠ none := by
  constructor
  · intro exceeds
    cases exceeds with
    | overlong failed => exact nomatch failed.symm.trans resolved
    | overlongBelow same looked tooLong =>
      obtain ⟨rfl, rfl⟩ := Place.within.inj (Except.ok.inj (same.symm.trans resolved))
      exact ⟨_, looked, by rw [faultOf, if_pos tooLong]; exact Option.some_ne_none _⟩
    | tooDeep same deep =>
      obtain ⟨rfl, rfl⟩ := Place.within.inj (Except.ok.inj (same.symm.trans resolved))
      obtain ⟨names, entered, longer⟩ := Folder.lt_depth_iff.mp deep
      exact ⟨_, entered, by rw [faultOf, if_pos longer]; exact Option.some_ne_none _⟩
  · rintro ⟨look, searched, fails⟩
    cases look with
    | entry names =>
      refine .overlongBelow resolved searched ?_
      by_contra short
      exact fails (if_neg short)
    | inside names =>
      refine .tooDeep resolved (Folder.lt_depth_iff.mpr ⟨names, searched, ?_⟩)
      by_contra shallow
      exact fails (if_neg shallow)

theorem stopsSearch_of_faultOf {tree : Tree} {path : Path} {look : Folder.Look} {fault : FileFault}
    (fails : tree.faultOf path look = some fault) : fault.StopsSearch := by
  cases look with
  | entry names =>
    rw [faultOf] at fails
    split at fails
    · obtain rfl := Option.some.inj fails
      exact .nameTooLong _
    · cases fails
  | inside names =>
    rw [faultOf] at fails
    split at fails
    · obtain rfl := Option.some.inj fails
      exact .tooDeep
    · cases fails

/-- Below a folder the source files are found, unless its path is too much. -/
theorem sourceFilesAt_within {tree : Tree} {path : Path} {here : Folder} {above : List Folder}
    (resolved : tree.resolve path = .ok (.within here above)) :
    tree.Exceeds path ∧ (∃ fault, fault.StopsSearch ∧ tree.sourceFilesAt path = .error fault) ∨
      ¬ tree.Exceeds path ∧
        tree.sourceFilesAt path = .ok (here.sourceFiles Roles.sourceEnding) := by
  rw [exceeds_iff_of_within resolved, sourceFilesAt, resolved]
  dsimp only
  split
  · next fault found =>
    obtain ⟨look, searched, fails⟩ := List.exists_of_findSome?_eq_some found
    refine Or.inl ⟨⟨look, searched, ?_⟩, fault, stopsSearch_of_faultOf fails, rfl⟩
    rw [fails]
    exact Option.some_ne_none fault
  · next found =>
    refine Or.inr ⟨?_, rfl⟩
    rintro ⟨look, searched, fails⟩
    exact fails (List.findSome?_eq_none_iff.mp found look searched)

end Tree

namespace FileSystem

theorem expandPath_of_folder {system : FileSystem} {path : Path}
    (isFolder : system.isFolder path = .ok true) :
    system.expandPath path = (system.sourceFiles path).map fun found =>
      (found.mergeSort Path.namesPrecede).map path.append := by
  rw [expandPath, isFolder]
  show (system.sourceFiles path >>= _) = _
  cases system.sourceFiles path <;> rfl

theorem expandPath_of_other {system : FileSystem} {path : Path}
    (isFolder : system.isFolder path = .ok false) : system.expandPath path = .ok [path] := by
  rw [expandPath, isFolder]
  rfl

/-- A path stands for itself, or for what is found below it. -/
theorem eq_of_expandPath {system : FileSystem} {path : Path} {files : List Path}
    (expanded : system.expandPath path = .ok files) :
    system.isFolder path = .ok false ∧ files = [path] ∨
      system.isFolder path = .ok true ∧ ∃ found, system.sourceFiles path = .ok found ∧
        files = (found.mergeSort Path.namesPrecede).map path.append := by
  obtain ⟨answer, isFolder, _⟩ := bind_eq_ok_iff.mp expanded
  cases answer with
  | false =>
    rw [expandPath_of_other isFolder] at expanded
    exact Or.inl ⟨isFolder, (Except.ok.inj expanded).symm⟩
  | true =>
    rw [expandPath_of_folder isFolder] at expanded
    cases searched : system.sourceFiles path with
    | error fault =>
      rw [searched] at expanded
      exact nomatch expanded
    | ok found =>
      rw [searched] at expanded
      exact Or.inr ⟨isFolder, found, rfl, (Except.ok.inj expanded).symm⟩

/-- The written forms of files that stand for themselves stand for these files. -/
theorem expand_render_of_alone {system : FileSystem} {files : List Path}
    (pieces : ∀ file ∈ files, ∀ name ∈ file.names, Path.IsPiece name)
    (alone : ∀ file ∈ files, system.expandPath file = .ok [file]) :
    system.expand (files.map Path.render) = .ok files := by
  have each : ∀ file ∈ files, system.expandPath (Path.ofText file.render) = .ok [file] := by
    intro file member
    rw [Path.ofText_render (pieces file member)]
    exact alone file member
  have returned : (files.map Path.render).mapM
      (fun text => system.expandPath (Path.ofText text)) = .ok (files.map fun file => [file]) := by
    rw [List.mapM_map]
    exact mapM_eq_ok _ _ files each
  rw [expand, returned]
  show Except.ok (files.map fun file => [file]).flatten = _
  rw [← List.flatMap_def, List.flatMap_singleton']

end FileSystem

namespace Tree

open Folder (Place)

/-- A path without null characters stands for files unless it is too much, and then a fault says
so. -/
theorem expandPath_cases_of_noNull (tree : Tree) {path : Path} (noNull : path.hasNull = false) :
    tree.Exceeds path ∧
        (∃ fault, fault.StopsSearch ∧ tree.fileSystem.expandPath path = .error fault) ∨
      ¬ tree.Exceeds path ∧ ∃ files, tree.fileSystem.expandPath path = .ok files := by
  have isFolder : tree.fileSystem.isFolder path = _ := if_neg (by rw [noNull]; decide)
  -- A path that is not too long and leads to no folder stands for itself.
  have alone (other : tree.fileSystem.isFolder path = .ok false)
      (followed : tree.resolve path ≠ .error .nameTooLong)
      (elsewhere : ∀ here above, tree.resolve path ≠ .ok (.within here above)) :
      ¬ tree.Exceeds path ∧ ∃ files, tree.fileSystem.expandPath path = .ok files := by
    refine ⟨fun exceeds => ?_, [path], FileSystem.expandPath_of_other other⟩
    cases exceeds with
    | overlong resolved => exact followed resolved
    | overlongBelow resolved => exact elsewhere _ _ resolved
    | tooDeep resolved => exact elsewhere _ _ resolved
  cases resolved : tree.resolve path with
  | error cause =>
    rw [resolved] at isFolder alone
    cases cause with
    | nameTooLong =>
      refine Or.inl ⟨.overlong resolved, _, .nameTooLong path, ?_⟩
      rw [FileSystem.expandPath, isFolder]
      rfl
    | missing => exact Or.inr (alone isFolder nofun nofun)
    | notAFolder => exact Or.inr (alone isFolder nofun nofun)
    | isAFolder => exact Or.inr (alone isFolder nofun nofun)
    | other number wording => exact Or.inr (alone isFolder nofun nofun)
  | ok place =>
    rw [resolved] at isFolder alone
    cases place with
    | atFile content => exact Or.inr (alone isFolder nofun nofun)
    | within here above =>
      rw [FileSystem.expandPath_of_folder isFolder]
      refine (sourceFilesAt_within resolved).imp (And.imp_right ?_) (And.imp_right ?_)
      · rintro ⟨fault, stops, failed⟩
        rw [show tree.fileSystem.sourceFiles path = _ from failed]
        exact ⟨fault, stops, rfl⟩
      · intro found
        rw [show tree.fileSystem.sourceFiles path = _ from found]
        exact ⟨_, rfl⟩

/-- The path is handed to the system, and is too much. -/
def Refuses (tree : Tree) (path : Path) : Prop := path.hasNull = false ∧ tree.Exceeds path

/-- A path stands for files unless it is refused. One with a null character is not handed to the
system, and stands for itself. -/
theorem expandPath_cases (tree : Tree) (path : Path) :
    tree.Refuses path ∧
        (∃ fault, fault.StopsSearch ∧ tree.fileSystem.expandPath path = .error fault) ∨
      ¬ tree.Refuses path ∧ ∃ files, tree.fileSystem.expandPath path = .ok files := by
  rw [Refuses]
  cases null : path.hasNull with
  | true =>
    have isFolder : tree.fileSystem.isFolder path = .ok false := if_pos null
    exact Or.inr ⟨by simp, [path], FileSystem.expandPath_of_other isFolder⟩
  | false =>
    simp only [true_and]
    exact tree.expandPath_cases_of_noNull null

/-- A search finds nothing, or the source files of the folder to which the path leads. -/
theorem eq_of_sourceFilesAt {tree : Tree} {path : Path} {found : List (List Text)}
    (searched : tree.sourceFilesAt path = .ok found) :
    found = [] ∨ ∃ here above, tree.resolve path = .ok (.within here above) ∧
      found = here.sourceFiles Roles.sourceEnding := by
  rw [sourceFilesAt] at searched
  split at searched
  · next here above resolved =>
    split at searched
    · exact nomatch searched
    · exact Or.inr ⟨here, above, resolved, (Except.ok.inj searched).symm⟩
  · exact Or.inl (Except.ok.inj searched).symm

/-- A property that folders pass on to those in them holds wherever a path leads. -/
theorem holds_of_resolve {property : Folder → Prop}
    (inner : ∀ {folder inside : Folder} {name : Text}, property folder →
      folder.find? name = some (.folder inside) → property inside)
    {tree : Tree} (holds : property tree.top) {path : Path} {place : Place}
    (resolved : tree.resolve path = .ok place) : place.Holds property := by
  rw [resolve] at resolved
  split at resolved
  · exact nomatch resolved
  · exact Folder.holds_of_follow inner holds resolved

theorem mem_entryNames_of_sourceFilesAt {tree : Tree} {path : Path}
    {found : List (List Text)} (searched : tree.sourceFilesAt path = .ok found) :
    ∀ names ∈ found, ∀ name ∈ names, name ∈ tree.top.entryNames := by
  rcases eq_of_sourceFilesAt searched with rfl | ⟨here, above, resolved, rfl⟩
  · exact fun names member => absurd member List.not_mem_nil
  · have inner : Place.Holds (fun folder => folder.entryNames ⊆ tree.top.entryNames)
        (.within here above) :=
      holds_of_resolve
        (fun held found => List.Subset.trans (Folder.entryNames_subset_of_find? found) held)
        (List.Subset.refl _) resolved
    exact fun names found name member =>
      inner.1 (Folder.mem_entryNames_of_sourceFiles names found name member)

/-- The files that a path stands for are made of its names and of names of the tree. -/
theorem mem_names_of_expandPath {tree : Tree} {path : Path} {files : List Path}
    (expanded : tree.fileSystem.expandPath path = .ok files) :
    ∀ file ∈ files, ∀ name ∈ file.names, name ∈ path.names ∨ name ∈ tree.top.entryNames := by
  intro file member name inFile
  rcases FileSystem.eq_of_expandPath expanded with ⟨_, rfl⟩ | ⟨_, found, searched, rfl⟩
  · obtain rfl := List.mem_singleton.mp member
    exact Or.inl inFile
  · obtain ⟨names, sorted, rfl⟩ := List.mem_map.mp member
    refine (List.mem_append.mp inFile).imp_right ?_
    exact mem_entryNames_of_sourceFilesAt searched names (List.mem_mergeSort.mp sorted) name

/-- The files that a path stands for are made of names, if the path and the tree are. -/
theorem isName_of_expandPath {tree : Tree} (wellNamed : tree.top.WellNamed) {path : Path}
    (named : ∀ name ∈ path.names, IsName name) {files : List Path}
    (expanded : tree.fileSystem.expandPath path = .ok files) :
    ∀ file ∈ files, ∀ name ∈ file.names, IsName name :=
  fun file member name inFile =>
    (mem_names_of_expandPath expanded file member name inFile).elim (named name) (wellNamed name)

/-! ### Files of all arguments -/

variable {tree : Tree} {arguments : List Text} {files : List Path}

/-- Arguments stand for files unless one of them is refused. -/
theorem expand_returns_or_refuses (tree : Tree) (arguments : List Text) :
    (∃ argument ∈ arguments, tree.Refuses (Path.ofText argument)) ∧
        (∃ fault, fault.StopsSearch ∧ tree.fileSystem.expand arguments = .error fault) ∨
      (¬ ∃ argument ∈ arguments, tree.Refuses (Path.ofText argument)) ∧
        ∃ lists, arguments.mapM (fun argument =>
          tree.fileSystem.expandPath (Path.ofText argument)) = .ok lists ∧
            tree.fileSystem.expand arguments = .ok lists.flatten := by
  rw [FileSystem.expand]
  cases expanded : arguments.mapM fun argument =>
      tree.fileSystem.expandPath (Path.ofText argument) with
  | error fault =>
    obtain ⟨argument, member, failed⟩ := exists_error_of_mapM expanded
    rcases tree.expandPath_cases (Path.ofText argument) with
      ⟨refuses, other, stops, same⟩ | ⟨_, files, returned⟩
    · obtain rfl := Except.error.inj (failed.symm.trans same)
      exact Or.inl ⟨⟨argument, member, refuses⟩, fault, stops, rfl⟩
    · exact nomatch failed.symm.trans returned
  | ok lists =>
    refine Or.inr ⟨?_, lists, rfl, rfl⟩
    rintro ⟨argument, member, refuses⟩
    obtain ⟨files, _, returned⟩ := exists_result_of_mapM expanded member
    rcases tree.expandPath_cases (Path.ofText argument) with ⟨_, fault, _, failed⟩ | ⟨taken, _⟩
    · exact nomatch failed.symm.trans returned
    · exact taken refuses

/-- Arguments without null characters stand for files unless one of them is too much. -/
theorem expand_cases (tree : Tree) (nullless : ∀ argument ∈ arguments, '\x00' ∉ argument) :
    (∃ argument ∈ arguments, tree.Exceeds (Path.ofText argument)) ∧
        (∃ fault, fault.StopsSearch ∧ tree.fileSystem.expand arguments = .error fault) ∨
      (¬ ∃ argument ∈ arguments, tree.Exceeds (Path.ofText argument)) ∧
        ∃ files, tree.fileSystem.expand arguments = .ok files := by
  have refused : (∃ argument ∈ arguments, tree.Refuses (Path.ofText argument)) ↔
      ∃ argument ∈ arguments, tree.Exceeds (Path.ofText argument) := by
    refine exists_congr fun argument => and_congr_right fun member => ?_
    exact and_iff_right
      (Path.hasNull_eq_false (Path.isName_of_mem_ofText (nullless argument member)))
  rw [← refused]
  refine (tree.expand_returns_or_refuses arguments).imp_right (And.imp_right ?_)
  rintro ⟨lists, _, returned⟩
  exact ⟨lists.flatten, returned⟩

theorem isName_of_expand (wellNamed : tree.top.WellNamed)
    (nullless : ∀ argument ∈ arguments, '\x00' ∉ argument)
    (expanded : tree.fileSystem.expand arguments = .ok files) :
    ∀ file ∈ files, ∀ name ∈ file.names, IsName name := by
  obtain ⟨lists, returned, flattened⟩ := bind_eq_ok_iff.mp expanded
  obtain rfl : lists.flatten = files := Except.ok.inj flattened
  intro file member
  obtain ⟨list, inLists, inList⟩ := List.mem_flatten.mp member
  obtain ⟨argument, inArguments, here⟩ := exists_item_of_mapM returned inLists
  exact isName_of_expandPath wellNamed
    (Path.isName_of_mem_ofText (nullless argument inArguments)) here file inList

/-! ### Legible files -/

/-- What keeps the file at a path from being read concerns it alone, if the path can be handed to
the system. -/
theorem concernsFile_of_document {path : Path} (named : ∀ name ∈ path.names, IsName name)
    {fault : FileFault} (failed : tree.fileSystem.document path = .error fault) :
    fault.concernsFile = true := by
  have noNull := Path.hasNull_eq_false named
  rcases bind_eq_error_iff.mp failed with unread | ⟨bytes, _, undecoded⟩
  · have read : tree.fileSystem.read path = _ := if_neg (by rw [noNull]; decide)
    rw [read] at unread
    split at unread
    · cases unread
    all_goals exact Except.error.inj unread ▸ rfl
  · split at undecoded
    · exact Except.error.inj undecoded ▸ rfl
    · cases undecoded

theorem resolve_of_read {path : Path} {bytes : List UInt8}
    (returned : tree.read path = .ok bytes) :
    ¬ path.hasNull = true ∧ tree.resolve path = .ok (.atFile (.bytes bytes)) := by
  rw [read] at returned
  split at returned
  · exact nomatch returned
  · next noNull =>
    split at returned
    · next held resolved =>
      obtain rfl := Except.ok.inj returned
      exact ⟨noNull, resolved⟩
    all_goals exact nomatch returned

/-- A file is no folder, so it stands for itself. -/
theorem expandPath_of_atFile {path : Path} {content : Content}
    (resolved : tree.resolve path = .ok (.atFile content)) :
    tree.fileSystem.expandPath path = .ok [path] := by
  refine FileSystem.expandPath_of_other ?_
  show tree.isFolder path = .ok false
  rw [isFolder, resolved]
  split <;> rfl

theorem expandPath_of_legible {path : Path} (legible : tree.fileSystem.isLegible path = true) :
    tree.fileSystem.expandPath path = .ok [path] := by
  rw [FileSystem.isLegible] at legible
  split at legible
  · next bytes returned => exact expandPath_of_atFile (resolve_of_read returned).2
  · exact Bool.noConfusion legible

/-- A path that leads to a document stands for that file alone. -/
theorem expand_of_document {argument : Text} {document : Document}
    (returned : tree.fileSystem.document (Path.ofText argument) = .ok document) :
    tree.fileSystem.expand [argument] = .ok [Path.ofText argument] := by
  rw [FileSystem.expand, List.mapM_cons,
    expandPath_of_legible (FileSystem.isLegible_of_ok returned)]
  rfl

/-- The written forms of legible files stand for these files. -/
theorem expand_render (named : ∀ file ∈ files, ∀ name ∈ file.names, IsName name)
    (legible : ∀ file ∈ files, tree.fileSystem.isLegible file = true) :
    tree.fileSystem.expand (files.map Path.render) = .ok files :=
  FileSystem.expand_render_of_alone
    (fun file member name inFile => (named file member name inFile).isPiece)
    fun file member => expandPath_of_legible (legible file member)

end Tree

end IgniterLint
