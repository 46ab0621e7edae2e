/-
This file says exactly which files a list of arguments is expanded to. The names found below a
folder are sorted by a comparison that goes name by name, and this is the lexicographic order of
lists of texts; since nothing is found twice, the sorted names ascend strictly. What is found are
the source files to which names lead down from the folder, and each of them stands for itself, so
an expansion is not changed by expanding it again. Only arguments that are too much for the system
or for the search are not expanded, and one of them is enough for nothing to be returned.
-/

import Mathlib.Data.Char
import Mathlib.Data.List.Lex
import Mathlib.Data.List.Pairwise
import Mathlib.Order.Lattice
import IgniterLint.Proofs.File.Search
import IgniterLint.Proofs.File.Tree

namespace IgniterLint

/-! ### The order of names -/

/-- Lists are compared at the first items that differ. -/
theorem cons_le_cons_iff_lt_or {α : Type} [LinearOrder α] {a b : α} {first second : List α} :
    a :: first ≤ b :: second ↔ a < b ∨ a = b ∧ first ≤ second := by
  rw [le_iff_lt_or_eq, List.cons_lt_cons_iff, le_iff_lt_or_eq, List.cons.injEq, or_assoc,
    ← and_or_left]

theorem Text.precedes_iff {first second : Text} :
    first.precedes second = true ↔ first ≤ second := by
  induction first generalizing second with
  | nil => exact iff_of_true rfl (not_lt.mp List.not_lex_nil)
  | cons a first inductionHypothesis =>
    cases second with
    | nil => exact iff_of_false Bool.false_ne_true (not_le_of_gt List.Lex.nil)
    | cons b second =>
      rw [precedes, cons_le_cons_iff_lt_or, ← inductionHypothesis]
      rcases lt_trichotomy a b with below | rfl | above
      · rw [if_pos (show a.toNat < b.toNat from below)]
        exact iff_of_true rfl (Or.inl below)
      · simp
      · rw [if_neg (show ¬ a.toNat < b.toNat from not_lt_of_gt above),
          if_pos (show b.toNat < a.toNat from above)]
        exact iff_of_false Bool.false_ne_true (by simp [above.le, above.ne'])

theorem Path.namesPrecede_iff {first second : List Text} :
    namesPrecede first second = true ↔ first ≤ second := by
  induction first generalizing second with
  | nil => exact iff_of_true rfl (not_lt.mp List.not_lex_nil)
  | cons a first inductionHypothesis =>
    cases second with
    | nil => exact iff_of_false Bool.false_ne_true (not_le_of_gt List.Lex.nil)
    | cons b second =>
      rw [namesPrecede, cons_le_cons_iff_lt_or]
      split
      · next same => simp [same, inductionHypothesis]
      · next other =>
        rw [Text.precedes_iff, le_iff_lt_or_eq]
        simp [other]

theorem Path.pairwise_le_mergeSort (found : List (List Text)) :
    (found.mergeSort namesPrecede).Pairwise (· ≤ ·) := by
  refine (List.pairwise_mergeSort ?_ ?_ found).imp namesPrecede_iff.mp
  · intro first second third
    simp only [namesPrecede_iff]
    exact le_trans
  · intro first second
    rw [Bool.or_eq_true, namesPrecede_iff, namesPrecede_iff]
    exact le_total first second

/-- What is listed once ascends strictly when it is sorted. -/
theorem Path.pairwise_lt_mergeSort {found : List (List Text)} (once : found.Nodup) :
    (found.mergeSort namesPrecede).Pairwise (· < ·) := by
  have onceSorted := (List.mergeSort_perm found namesPrecede).nodup_iff.mpr once
  exact (pairwise_le_mergeSort found).imp₂ (fun _ _ below other => lt_of_le_of_ne below other)
    onceSorted

/-- There is only one order in which what is found ascends. -/
theorem Path.mergeSort_eq_of_perm {found sorted : List (List Text)} (same : sorted.Perm found)
    (ascending : sorted.Pairwise fun first second => namesPrecede first second = true) :
    found.mergeSort namesPrecede = sorted :=
  List.Perm.eq_of_pairwise (fun _ _ _ _ => le_antisymm) (pairwise_le_mergeSort found)
    (ascending.imp namesPrecede_iff.mp) ((List.mergeSort_perm found namesPrecede).trans same.symm)

theorem FileSystem.expandPath_of_ascending {system : FileSystem} {path : Path}
    {found sorted : List (List Text)} (isFolder : system.isFolder path = .ok true)
    (searched : system.sourceFiles path = .ok found) (same : sorted.Perm found)
    (ascending : sorted.Pairwise fun first second => Path.namesPrecede first second = true) :
    system.expandPath path = .ok (sorted.map path.append) := by
  rw [expandPath_of_folder isFolder, searched, ← Path.mergeSort_eq_of_perm same ascending]
  rfl

theorem Path.name_append (path : Path) {names : List Text} (filled : names ≠ []) :
    (path.append names).name = names.getLastD [] := by
  show (path.names ++ names).getLastD [] = _
  rw [List.getLastD_eq_getLast?, List.getLast?_append_of_ne_nil _ filled, List.getLastD_eq_getLast?]

namespace Tree

open Folder (Place)

/-! ### What a path stands for -/

/-- The path leads to a file of the tree whose name has the ending of source files. -/
structure IsSource (tree : Tree) (file : Path) : Prop where
  ends : Roles.sourceEnding <:+ file.name
  leads : ∃ content, tree.resolve file = .ok (.atFile content)

/-- The files for which a path is replaced. A path that does not lead to a folder is kept, and a
folder gives way to all source files at any depth below it, each of them once and in the
lexicographic order of their names. -/
inductive StandsFor (tree : Tree) (path : Path) : List Path → Prop where
  | itself (other : tree.isFolder path = .ok false) : StandsFor tree path [path]
  | below {files : List Path} (isFolder : tree.isFolder path = .ok true)
      (complete : ∀ file, file ∈ files ↔
        tree.IsSource file ∧ ∃ names, Path.placeAbove ∉ names ∧ file = path.append names)
      (ascending : files.Pairwise fun earlier later => earlier.names < later.names) :
      StandsFor tree path files

variable {tree : Tree} {path : Path}

/-- A path that goes on from a place leads where the further names lead from there. -/
theorem resolve_append {place : Place} (resolved : tree.resolve path = .ok place)
    (names : List Text) :
    tree.resolve (path.append names) =
      if isPathTooLong (path.append names) then .error .nameTooLong
      else names.foldlM Folder.step place := by
  rw [resolve] at resolved
  split at resolved
  · cases resolved
  · show (if _ then _ else (tree.start path.root ++ (path.names ++ names)).foldlM _ _) = _
    rw [Folder.follow] at resolved
    rw [← List.append_assoc, List.foldlM_append, resolved]
    rfl

theorem resolve_of_isFolder (isFolder : tree.isFolder path = .ok true) :
    ∃ here above, tree.resolve path = .ok (.within here above) := by
  rw [Tree.isFolder] at isFolder
  split at isFolder
  · cases isFolder
  · split at isFolder
    · next here above resolved => exact ⟨here, above, resolved⟩
    all_goals cases isFolder

theorem wellFormed_of_resolve (wellFormed : tree.top.WellFormed) {here : Folder}
    {above : List Folder} (resolved : tree.resolve path = .ok (.within here above)) :
    here.WellFormed := by
  have kept : Place.Holds Folder.WellFormed (.within here above) :=
    holds_of_resolve (fun formed found => (formed.of_find? found).2 _ rfl) wellFormed resolved
  exact kept.1

theorem nodup_of_sourceFilesAt (wellFormed : tree.top.WellFormed)
    {found : List (List Text)} (searched : tree.sourceFilesAt path = .ok found) :
    found.Nodup := by
  rcases eq_of_sourceFilesAt searched with rfl | ⟨here, above, resolved, rfl⟩
  · exact List.nodup_nil
  · exact (wellFormed_of_resolve wellFormed resolved).nodup_sourceFiles Roles.sourceEnding

/-- In a folder of the tree, if nothing below it is too much, the search finds exactly the source
files to which names lead down. -/
theorem mem_sourceFiles_iff_isSource (wellFormed : tree.top.WellFormed) {here : Folder}
    {above : List Folder} (resolved : tree.resolve path = .ok (.within here above))
    (taken : ¬ tree.Exceeds path) (names : List Text) :
    names ∈ here.sourceFiles Roles.sourceEnding ↔
      tree.IsSource (path.append names) ∧ Path.placeAbove ∉ names := by
  have hereFormed := wellFormed_of_resolve wellFormed resolved
  have leads := resolve_append resolved names
  constructor
  · intro member
    have filled : names ≠ [] := by
      rintro rfl
      exact Folder.nil_not_mem_sourceFiles _ here member
    have down : Path.placeAbove ∉ names := fun isAbove =>
      (hereFormed.isEntryName _
        (Folder.mem_entryNames_of_sourceFiles names member _ isAbove)).below rfl
    have short : ¬ isPathTooLong (path.append names) = true := fun tooLong =>
      taken (.overlongBelow resolved (Folder.looked_of_sourceFiles member) tooLong)
    obtain ⟨ends, content, led⟩ := (hereFormed.mem_sourceFiles_iff above down).mp member
    rw [if_neg short, led] at leads
    exact ⟨⟨(path.name_append filled).symm ▸ ends, content, leads⟩, down⟩
  · rintro ⟨⟨ends, content, led⟩, down⟩
    rw [leads] at led
    split at led
    · exact nomatch led
    · have filled : names ≠ [] := by
        rintro rfl
        exact nomatch led
      exact (hereFormed.mem_sourceFiles_iff above down).mpr
        ⟨path.name_append filled ▸ ends, content, led⟩

/-- The search below a folder finds exactly the source files to which names lead down from it. -/
theorem mem_sourceFilesAt_iff (wellFormed : tree.top.WellFormed)
    (isFolder : tree.isFolder path = .ok true) {found : List (List Text)}
    (searched : tree.sourceFilesAt path = .ok found) (names : List Text) :
    names ∈ found ↔ tree.IsSource (path.append names) ∧ Path.placeAbove ∉ names := by
  obtain ⟨here, above, resolved⟩ := resolve_of_isFolder isFolder
  rcases sourceFilesAt_within resolved with ⟨_, fault, _, failed⟩ | ⟨taken, returned⟩
  · exact nomatch searched.symm.trans failed
  · obtain rfl := Except.ok.inj (searched.symm.trans returned)
    exact mem_sourceFiles_iff_isSource wellFormed resolved taken names

/-- What is returned for a path is what the path stands for. -/
theorem standsFor_of_expandPath (wellFormed : tree.top.WellFormed) {files : List Path}
    (expanded : tree.fileSystem.expandPath path = .ok files) : tree.StandsFor path files := by
  rcases FileSystem.eq_of_expandPath expanded with ⟨other, rfl⟩ | ⟨isFolder, found, searched, rfl⟩
  · exact .itself other
  · have leads := mem_sourceFilesAt_iff wellFormed isFolder searched
    refine .below isFolder (fun file => ?_) ?_
    · rw [List.mem_map]
      constructor
      · rintro ⟨names, sorted, rfl⟩
        obtain ⟨isSource, down⟩ := (leads names).mp (List.mem_mergeSort.mp sorted)
        exact ⟨isSource, names, down, rfl⟩
      · rintro ⟨isSource, names, down, rfl⟩
        exact ⟨names, List.mem_mergeSort.mpr ((leads names).mpr ⟨isSource, down⟩), rfl⟩
    · rw [List.pairwise_map]
      refine (Path.pairwise_lt_mergeSort (nodup_of_sourceFilesAt wellFormed searched)).imp ?_
      exact fun before => List.Lex.append_left _ before path.names

/-! ### Expanding again -/

/-- Each of the files for which a path stands, stands for itself. -/
theorem StandsFor.alone {files : List Path} (standsFor : tree.StandsFor path files) :
    ∀ file ∈ files, tree.fileSystem.expandPath file = .ok [file] := by
  intro file member
  cases standsFor with
  | itself other =>
    obtain rfl := List.mem_singleton.mp member
    exact FileSystem.expandPath_of_other other
  | below isFolder complete ascending =>
    obtain ⟨⟨_, content, resolved⟩, _⟩ := (complete file).mp member
    exact expandPath_of_atFile resolved

/-- Arguments are replaced one after the other by what they stand for, and what they are replaced by
is not changed by another expansion, whether the files or their written forms are expanded. The only
exceptions are arguments that are refused, being too long or leading to what is too long or too
deep, and then nothing is returned. -/
theorem expand_exactly (wellFormed : tree.top.WellFormed) (arguments : List Text) :
    (∃ argument ∈ arguments, tree.Refuses (Path.ofText argument)) ∧
        (∃ fault, fault.StopsSearch ∧ tree.fileSystem.expand arguments = .error fault) ∨
      (¬ ∃ argument ∈ arguments, tree.Refuses (Path.ofText argument)) ∧
        ∃ lists, tree.fileSystem.expand arguments = .ok lists.flatten ∧
          List.Forall₂ (fun argument files => tree.StandsFor (Path.ofText argument) files)
            arguments lists ∧
          (∀ file ∈ lists.flatten, tree.fileSystem.expandPath file = .ok [file]) ∧
          tree.fileSystem.expand (lists.flatten.map Path.render) = .ok lists.flatten := by
  refine (tree.expand_returns_or_refuses arguments).imp_right (And.imp_right ?_)
  rintro ⟨lists, returned, expanded⟩
  have replaced : ∀ file ∈ lists.flatten, ∃ argument files, file ∈ files ∧
      tree.fileSystem.expandPath (Path.ofText argument) = .ok files := by
    intro file member
    obtain ⟨files, inLists, inFiles⟩ := List.mem_flatten.mp member
    obtain ⟨argument, _, here⟩ := exists_item_of_mapM returned inLists
    exact ⟨argument, files, inFiles, here⟩
  have alone : ∀ file ∈ lists.flatten, tree.fileSystem.expandPath file = .ok [file] := by
    intro file member
    obtain ⟨argument, files, inFiles, here⟩ := replaced file member
    exact (standsFor_of_expandPath wellFormed here).alone file inFiles
  -- No name has a slash in it, be it of an argument or of the tree, so written files are read back.
  have pieces : ∀ file ∈ lists.flatten, ∀ name ∈ file.names, Path.IsPiece name := by
    intro file member name inFile
    obtain ⟨argument, files, inFiles, here⟩ := replaced file member
    rcases mem_names_of_expandPath here file inFiles name inFile with ofArgument | ofTree
    · exact Path.isPiece_of_mem_ofText name ofArgument
    · exact (wellFormed.isEntryName name ofTree).isName.isPiece
  refine ⟨lists, expanded, ?_, alone, FileSystem.expand_render_of_alone pieces alone⟩
  exact (mapM_eq_ok_iff_forall₂.mp returned).imp fun _ _ => standsFor_of_expandPath wellFormed

/-- A program in a folder beside one whose name goes on from that of its own, and beside a folder
named like a source file that holds a file named like the ending. -/
def adjoiningFolders : Tree where
  top := .folder "srv".toList
    (.folder "x.php".toList (.file ".php".toList (.bytes []) .empty) <|
    .folder "a-b".toList
      (.file "a.php".toList (.bytes []) (.file "a.txt".toList (.bytes []) .empty)) <|
    .folder "a".toList (.file "z.php".toList (.bytes []) .empty) .empty) .empty
  here := ["srv".toList, "a".toList]
  reach := 900
  stands := ⟨_, _, rfl⟩

/-- The folder above, a file that is not there, and a folder named from the top. -/
def adjoiningArguments : List Text := ["..".toList, "a.php".toList, "/srv/a-b".toList]

theorem expand_adjoiningArguments :
    adjoiningFolders.fileSystem.expand adjoiningArguments =
      .ok (["../a/z.php", "../a-b/a.php", "../x.php/.php", "a.php", "/srv/a-b/a.php"].map
        fun text => Path.ofText text.toList) := by
  have above : adjoiningFolders.fileSystem.expandPath (Path.ofText "..".toList) =
      .ok ([["a".toList, "z.php".toList], ["a-b".toList, "a.php".toList],
        ["x.php".toList, ".php".toList]].map (Path.ofText "..".toList).append) :=
    FileSystem.expandPath_of_ascending (by rfl) (by rfl) (by decide) (by decide)
  have missing : adjoiningFolders.fileSystem.expandPath (Path.ofText "a.php".toList) =
      .ok [Path.ofText "a.php".toList] := FileSystem.expandPath_of_other (by rfl)
  have fromTop : adjoiningFolders.fileSystem.expandPath (Path.ofText "/srv/a-b".toList) =
      .ok ([["a.php".toList]].map (Path.ofText "/srv/a-b".toList).append) :=
    FileSystem.expandPath_of_ascending (by rfl) (by rfl) (List.Perm.refl _) (by decide)
  rw [FileSystem.expand, adjoiningArguments, List.mapM_cons, List.mapM_cons, List.mapM_cons, above,
    missing, fromTop]
  rfl

-- Written out, the path below the longer name comes first; name by name it comes second.
theorem expand_exactly_adjoiningFolders :
    adjoiningFolders.top.WellFormed ∧
    "../a-b/a.php".toList < "../a/z.php".toList ∧
    ∃ lists, adjoiningFolders.fileSystem.expand adjoiningArguments = .ok lists.flatten ∧
      lists.flatten = ["../a/z.php", "../a-b/a.php", "../x.php/.php", "a.php", "/srv/a-b/a.php"].map
        (fun text => Path.ofText text.toList) ∧
      List.Forall₂ (fun argument files => adjoiningFolders.StandsFor (Path.ofText argument) files)
        adjoiningArguments lists ∧
      (∀ file ∈ lists.flatten, adjoiningFolders.fileSystem.expandPath file = .ok [file]) ∧
      adjoiningFolders.fileSystem.expand (lists.flatten.map Path.render) = .ok lists.flatten := by
  have wellFormed : adjoiningFolders.top.WellFormed := by decide
  rcases expand_exactly wellFormed adjoiningArguments with
    ⟨_, fault, _, failed⟩ | ⟨_, lists, returned, standFor, again⟩
  · cases expand_adjoiningArguments.symm.trans failed
  · exact ⟨wellFormed, by decide, lists, returned,
      Except.ok.inj (returned.symm.trans expand_adjoiningArguments), standFor, again⟩

-- A name that the system takes for too long leads to no folder, but does not stand for itself.
theorem expand_error_of_longArgument :
    adjoiningFolders.top.WellFormed ∧
    adjoiningFolders.fileSystem.expand ["z.php".toList, List.replicate 256 'a'] =
      .error (.system .nameTooLong ⟨.here, [List.replicate 256 'a']⟩) := by
  refine ⟨by decide, ?_⟩
  decide +kernel

end Tree

end IgniterLint
