/-
This file follows names through folders. What holds of the topmost folder, and of the folders in any
folder of which it holds, holds wherever names lead; so the names of all entries below a folder are
among those below the topmost one.

A search for source files enters every folder below the one where it starts. It goes as deep as the
folders lie inside each other, and that is how often it calls itself.
-/

import IgniterLint.Proofs.Except
import IgniterLint.Proofs.File.Path
import IgniterLint.File.Folder

namespace IgniterLint

open IgniterLint.Path (IsName)

namespace Folder

/-! ### Names in a tree -/

/-- The names of the entries at any depth. -/
def entryNames : Folder → List Text
  | empty => []
  | file name _ rest => name :: rest.entryNames
  | folder name inside rest => name :: (inside.entryNames ++ rest.entryNames)

/-- Every entry has a name that a path can have. -/
def WellNamed (tree : Folder) : Prop := ∀ name ∈ tree.entryNames, IsName name

instance (tree : Folder) : Decidable tree.WellNamed := List.decidableBAll _ tree.entryNames

/-- What is found is made of names of the tree. -/
theorem mem_entryNames_of_sourceFiles {ending : Text} {tree : Folder} :
    ∀ names ∈ tree.sourceFiles ending, ∀ name ∈ names, name ∈ tree.entryNames := by
  induction tree with
  | empty => exact fun names member => absurd member List.not_mem_nil
  | file other content rest inductionHypothesis =>
    intro names found name member
    rw [entryNames, List.mem_cons]
    rw [sourceFiles] at found
    split at found
    · rcases List.mem_cons.mp found with rfl | later
      · exact Or.inl (List.mem_singleton.mp member)
      · exact Or.inr (inductionHypothesis names later name member)
    · exact Or.inr (inductionHypothesis names found name member)
  | folder other within rest withinHypothesis restHypothesis =>
    intro names found name member
    rw [entryNames, List.mem_cons, List.mem_append]
    rw [sourceFiles, List.mem_append, List.mem_map] at found
    rcases found with ⟨lower, found, rfl⟩ | later
    · exact (List.mem_cons.mp member).imp_right fun deeper =>
        Or.inl (withinHypothesis lower found name deeper)
    · exact Or.inr (Or.inr (restHypothesis names later name member))

theorem entryNames_subset_of_find? {tree inside : Folder} {name : Text}
    (found : tree.find? name = some (.folder inside)) : inside.entryNames ⊆ tree.entryNames := by
  induction tree with
  | empty => exact nomatch found
  | file other content rest inductionHypothesis =>
    rw [find?] at found
    split at found
    · exact nomatch found
    · exact List.subset_cons_of_subset other (inductionHypothesis found)
  | folder other within rest _ inductionHypothesis =>
    rw [find?] at found
    split at found
    · obtain rfl := Entry.folder.inj (Option.some.inj found)
      exact List.subset_cons_of_subset other (List.subset_append_left _ _)
    · exact List.subset_cons_of_subset other
        (List.subset_append_of_subset_right _ (inductionHypothesis found))

/-! ### Following names -/

/-- Wherever names have led, the folders there and on the way have the property. -/
def Place.Holds (property : Folder → Prop) : Place → Prop
  | within here above => property here ∧ ∀ folder ∈ above, property folder
  | atFile _ => True

/-- A step from folders with a property leads to such folders, if those in them have it too. -/
theorem Place.Holds.step {property : Folder → Prop}
    (inner : ∀ {folder inside : Folder} {name : Text}, property folder →
      folder.find? name = some (.folder inside) → property inside)
    {place next : Place} {name : Text} (holds : place.Holds property)
    (stepped : Folder.step place name = .ok next) : next.Holds property := by
  cases place with
  | atFile content => exact nomatch stepped
  | within here above =>
    unfold Folder.step at stepped
    dsimp only at stepped
    split at stepped
    · cases above with
      | nil =>
        obtain rfl := Except.ok.inj stepped
        exact holds
      | cons upper rest =>
        obtain rfl := Except.ok.inj stepped
        exact List.forall_mem_cons.mp holds.2
    · split at stepped
      · exact nomatch stepped
      · split at stepped
        · exact nomatch stepped
        · obtain rfl := Except.ok.inj stepped
          trivial
        · next inside found =>
          obtain rfl := Except.ok.inj stepped
          exact ⟨inner holds.1 found, List.forall_mem_cons.mpr holds⟩

/-- A property that folders pass on to those in them holds wherever names lead from the top. -/
theorem holds_of_follow {property : Folder → Prop}
    (inner : ∀ {folder inside : Folder} {name : Text}, property folder →
      folder.find? name = some (.folder inside) → property inside)
    {top : Folder} (holds : property top) {names : List Text} {place : Place}
    (led : top.follow names = .ok place) : place.Holds property := by
  have started : (Place.within top []).Holds property :=
    ⟨holds, fun folder member => absurd member List.not_mem_nil⟩
  exact foldlM_keeps (fun _ _ _ holds stepped => holds.step inner stepped) started led

/-! ### The depth of a search -/

/-- How many folders lie inside each other at most. -/
def depth : Folder → Nat
  | empty => 0
  | file _ _ rest => rest.depth
  | folder _ inside rest => max (inside.depth + 1) rest.depth

theorem searchedWithin_folder (ending name : Text) (inside rest : Folder) :
    (folder name inside rest).searchedWithin ending =
      .entry [name] :: (inside.searched ending).map (Look.below name) ++
        rest.searchedWithin ending := rfl

theorem inside_mem_searched_iff {ending : Text} {tree : Folder} {names : List Text} :
    .inside names ∈ tree.searched ending ↔
      names = [] ∨ .inside names ∈ tree.searchedWithin ending := by
  rw [searched, List.mem_append, List.mem_map, List.mem_cons, Look.inside.injEq]
  simp

theorem inside_mem_searched_file_iff {ending name : Text} {content : Content} {rest : Folder}
    {names : List Text} :
    .inside names ∈ (file name content rest).searched ending ↔
      .inside names ∈ rest.searched ending := by
  rw [inside_mem_searched_iff, inside_mem_searched_iff, searchedWithin]

/-- The search goes through the folders of an inner folder as it does where it starts. -/
theorem inside_mem_searched_folder_iff {ending name : Text} {within rest : Folder}
    {names : List Text} :
    .inside names ∈ (folder name within rest).searched ending ↔
      (∃ lower, names = name :: lower ∧ .inside lower ∈ within.searched ending) ∨
        .inside names ∈ rest.searched ending := by
  have below : .inside names ∈ (within.searched ending).map (Look.below name) ↔
      ∃ lower, names = name :: lower ∧ .inside lower ∈ within.searched ending := by
    rw [List.mem_map]
    constructor
    · rintro ⟨⟨lower⟩ | ⟨lower⟩, searched, same⟩
      · cases same
      · exact ⟨lower, (Look.inside.inj same).symm, searched⟩
    · rintro ⟨lower, rfl, searched⟩
      exact ⟨.inside lower, searched, rfl⟩
  rw [inside_mem_searched_iff, inside_mem_searched_iff, searchedWithin_folder, List.mem_append,
    List.mem_cons, below]
  simp only [reduceCtorEq, false_or]
  exact or_left_comm

/-- A search goes no deeper than folders lie. -/
theorem length_le_depth {ending : Text} {tree : Folder} {names : List Text}
    (entered : .inside names ∈ tree.searched ending) : names.length ≤ tree.depth := by
  induction tree generalizing names with
  | empty =>
    obtain rfl : names = [] := by simpa [searched, namesEnding, searchedWithin] using entered
    exact Nat.zero_le _
  | file name content rest inductionHypothesis =>
    exact inductionHypothesis (inside_mem_searched_file_iff.mp entered)
  | folder name inside rest insideHypothesis restHypothesis =>
    rcases inside_mem_searched_folder_iff.mp entered with ⟨lower, rfl, deeper⟩ | later
    · exact Nat.le_trans (Nat.succ_le_succ (insideHypothesis deeper)) (Nat.le_max_left _ _)
    · exact Nat.le_trans (restHypothesis later) (Nat.le_max_right _ _)

/-- A search goes as deep as folders lie. -/
theorem exists_entered (ending : Text) (tree : Folder) :
    ∃ names, .inside names ∈ tree.searched ending ∧ names.length = tree.depth := by
  induction tree with
  | empty => exact ⟨[], inside_mem_searched_iff.mpr (Or.inl rfl), rfl⟩
  | file name content rest inductionHypothesis =>
    obtain ⟨names, entered, deep⟩ := inductionHypothesis
    exact ⟨names, inside_mem_searched_file_iff.mpr entered, deep⟩
  | folder name inside rest insideHypothesis restHypothesis =>
    rw [depth]
    rcases Nat.le_total rest.depth (inside.depth + 1) with deeper | later
    · obtain ⟨names, entered, deep⟩ := insideHypothesis
      refine ⟨name :: names, inside_mem_searched_folder_iff.mpr (Or.inl ⟨names, rfl, entered⟩), ?_⟩
      rw [Nat.max_eq_left deeper, List.length_cons, deep]
    · obtain ⟨names, entered, deep⟩ := restHypothesis
      refine ⟨names, inside_mem_searched_folder_iff.mpr (Or.inr entered), ?_⟩
      rw [Nat.max_eq_right later, deep]

/-- A search goes deeper than a count exactly if folders lie deeper. -/
theorem lt_depth_iff {ending : Text} {tree : Folder} {count : Nat} :
    count < tree.depth ↔ ∃ names, .inside names ∈ tree.searched ending ∧ count < names.length := by
  constructor
  · intro deeper
    obtain ⟨names, entered, deep⟩ := tree.exists_entered ending
    exact ⟨names, entered, deep ▸ deeper⟩
  · rintro ⟨names, entered, longer⟩
    exact Nat.lt_of_lt_of_le longer (length_le_depth entered)

end Folder

end IgniterLint
