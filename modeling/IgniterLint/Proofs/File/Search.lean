/-
This file says what a search for source files finds in a tree. The search goes through the entries
as they are listed, and a path is followed name by name; the two agree on trees in which no two
entries of a folder share a name and every name is one that the system takes. The files found are
then those to which names lead down, each found once, and the search has looked at every path that
it found.
-/

import Mathlib.Data.List.Nodup
import IgniterLint.Proofs.File.Folder

namespace IgniterLint

open IgniterLint.Path (IsName)

namespace Folder

/-! ### Trees that a system keeps -/

/-- A text that an entry can have as its name. -/
@[mk_iff]
structure IsEntryName (name : Text) : Prop where
  isName : IsName name
  below : name ≠ Path.placeAbove
  short : isTooLong name = false

instance (name : Text) : Decidable (IsEntryName name) :=
  decidable_of_iff' _ (isEntryName_iff name)

/-- Every entry has a name that the system takes, and no two entries of a folder share one. -/
def WellFormed : Folder → Prop
  | empty => True
  | file name _ rest => IsEntryName name ∧ rest.find? name = none ∧ rest.WellFormed
  | folder name inside rest =>
    IsEntryName name ∧ rest.find? name = none ∧ inside.WellFormed ∧ rest.WellFormed

/-- Whether a tree is well formed can be looked up entry by entry. -/
def decideWellFormed : (tree : Folder) → Decidable tree.WellFormed
  | empty => .isTrue trivial
  | file name _ rest =>
    have := decideWellFormed rest
    inferInstanceAs (Decidable (IsEntryName name ∧ rest.find? name = none ∧ rest.WellFormed))
  | folder name inside rest =>
    have := decideWellFormed inside
    have := decideWellFormed rest
    inferInstanceAs (Decidable (IsEntryName name ∧ rest.find? name = none ∧ inside.WellFormed ∧
      rest.WellFormed))

instance (tree : Folder) : Decidable tree.WellFormed := decideWellFormed tree

theorem WellFormed.of_find? {tree : Folder} {name : Text} {entry : Entry}
    (wellFormed : tree.WellFormed) (found : tree.find? name = some entry) :
    IsEntryName name ∧ ∀ inside, entry = .folder inside → inside.WellFormed := by
  induction tree with
  | empty => exact nomatch found
  | file other content rest inductionHypothesis =>
    obtain ⟨named, _, restFormed⟩ := wellFormed
    rw [find?] at found
    split at found
    · next same =>
      obtain rfl := Option.some.inj found
      refine ⟨same ▸ named, fun inside isInside => ?_⟩
      cases isInside
    · exact inductionHypothesis restFormed found
  | folder other within rest _ inductionHypothesis =>
    obtain ⟨named, _, withinFormed, restFormed⟩ := wellFormed
    rw [find?] at found
    split at found
    · next same =>
      obtain rfl := Option.some.inj found
      refine ⟨same ▸ named, fun inside isInside => ?_⟩
      obtain rfl := Entry.folder.inj isInside
      exact withinFormed
    · exact inductionHypothesis restFormed found

theorem WellFormed.isEntryName {tree : Folder} (wellFormed : tree.WellFormed) :
    ∀ name ∈ tree.entryNames, IsEntryName name := by
  induction tree with
  | empty => exact fun name member => absurd member List.not_mem_nil
  | file other content rest inductionHypothesis =>
    obtain ⟨named, _, restFormed⟩ := wellFormed
    exact List.forall_mem_cons.mpr ⟨named, inductionHypothesis restFormed⟩
  | folder other within rest withinHypothesis restHypothesis =>
    obtain ⟨named, _, withinFormed, restFormed⟩ := wellFormed
    exact List.forall_mem_cons.mpr ⟨named, List.forall_mem_append.mpr
      ⟨withinHypothesis withinFormed, restHypothesis restFormed⟩⟩

/-! ### What is found -/

theorem nil_not_mem_sourceFiles (ending : Text) (tree : Folder) :
    [] ∉ tree.sourceFiles ending := by
  induction tree with
  | empty => exact List.not_mem_nil
  | file name content rest inductionHypothesis =>
    rw [sourceFiles]
    split
    · simpa using inductionHypothesis
    · exact inductionHypothesis
  | folder name inside rest _ inductionHypothesis =>
    rw [sourceFiles, List.mem_append, not_or]
    exact ⟨by simp, inductionHypothesis⟩

/-- The search finds a path if its first name is that of a source file, or that of a folder in which
the rest of the path is found. -/
theorem WellFormed.cons_mem_sourceFiles_iff {tree : Folder} (wellFormed : tree.WellFormed)
    {ending name : Text} {names : List Text} :
    name :: names ∈ tree.sourceFiles ending ↔
      (names = [] ∧ ending <:+ name ∧ ∃ content, tree.find? name = some (.file content)) ∨
        ∃ inside, tree.find? name = some (.folder inside) ∧ names ∈ inside.sourceFiles ending := by
  induction tree with
  | empty => simp [sourceFiles, find?]
  | file other content rest inductionHypothesis =>
    obtain ⟨_, unshared, restFormed⟩ := wellFormed
    have behind := inductionHypothesis restFormed
    rw [sourceFiles, find?]
    by_cases same : other = name
    · subst same
      rw [unshared] at behind
      by_cases ends : ending <:+ other
      · simp [ends, behind]
      · simp [ends, behind]
    · rw [if_neg same, ← behind]
      split
      · simp [Ne.symm same]
      · rfl
  | folder other within rest _ inductionHypothesis =>
    obtain ⟨_, unshared, _, restFormed⟩ := wellFormed
    have behind := inductionHypothesis restFormed
    rw [sourceFiles, find?, List.mem_append, List.mem_map]
    by_cases same : other = name
    · subst same
      rw [unshared] at behind
      simp [behind]
    · rw [if_neg same, ← behind]
      simp [same]

theorem WellFormed.nodup_sourceFiles {tree : Folder} (wellFormed : tree.WellFormed)
    (ending : Text) : (tree.sourceFiles ending).Nodup := by
  induction tree with
  | empty => exact List.nodup_nil
  | file name content rest inductionHypothesis =>
    obtain ⟨_, unshared, restFormed⟩ := wellFormed
    have single := inductionHypothesis restFormed
    rw [sourceFiles]
    split
    · refine List.nodup_cons.mpr ⟨?_, single⟩
      rw [restFormed.cons_mem_sourceFiles_iff, unshared]
      simp
    · exact single
  | folder name inside rest insideHypothesis restHypothesis =>
    obtain ⟨_, unshared, insideFormed, restFormed⟩ := wellFormed
    refine List.nodup_append.mpr ⟨(insideHypothesis insideFormed).map List.cons_injective,
      restHypothesis restFormed, ?_⟩
    rintro _ inInside _ inRest rfl
    obtain ⟨lower, _, rfl⟩ := List.mem_map.mp inInside
    rw [restFormed.cons_mem_sourceFiles_iff, unshared] at inRest
    simp at inRest

/-! ### What is looked at -/

theorem entry_mem_searched_iff {ending : Text} {tree : Folder} {names : List Text} :
    .entry names ∈ tree.searched ending ↔
      (∃ name ∈ tree.namesEnding ending, [name] = names) ∨
        .entry names ∈ tree.searchedWithin ending := by
  rw [searched, List.mem_append, List.mem_map, List.mem_cons]
  simp

/-- The search has looked at all that it finds. -/
theorem looked_of_sourceFiles {ending : Text} {tree : Folder} {names : List Text}
    (found : names ∈ tree.sourceFiles ending) : .entry names ∈ tree.searched ending := by
  induction tree generalizing names with
  | empty => exact absurd found List.not_mem_nil
  | file name content rest inductionHypothesis =>
    rw [sourceFiles] at found
    rw [entry_mem_searched_iff, namesEnding, searchedWithin]
    split at found
    · next ends =>
      rw [if_pos ends]
      rcases List.mem_cons.mp found with rfl | later
      · exact Or.inl ⟨name, List.mem_cons_self, rfl⟩
      · refine (entry_mem_searched_iff.mp (inductionHypothesis later)).imp_left ?_
        rintro ⟨other, member, same⟩
        exact ⟨other, List.mem_cons_of_mem name member, same⟩
    · next other =>
      rw [if_neg other]
      exact entry_mem_searched_iff.mp (inductionHypothesis found)
  | folder name inside rest insideHypothesis restHypothesis =>
    rw [sourceFiles, List.mem_append, List.mem_map] at found
    rw [entry_mem_searched_iff, namesEnding, searchedWithin_folder]
    rcases found with ⟨lower, inInside, rfl⟩ | later
    · refine Or.inr (List.mem_append_left _ (List.mem_cons_of_mem _ ?_))
      exact List.mem_map.mpr ⟨.entry lower, insideHypothesis inInside, rfl⟩
    · rcases entry_mem_searched_iff.mp (restHypothesis later) with ⟨other, member, same⟩ | deeper
      · refine Or.inl ⟨other, ?_, same⟩
        split
        · exact List.mem_cons_of_mem name member
        · exact member
      · exact Or.inr (List.mem_append_right _ deeper)

/-! ### Following a path to what is found -/

/-- Where the name of an entry leads. -/
def Entry.place (here : Folder) (above : List Folder) : Entry → Place
  | file content => .atFile content
  | folder inside => .within inside (here :: above)

/-- A name leads down to the entry of that name, and nowhere if there is none. -/
theorem WellFormed.step_eq_ok_iff {here : Folder} (wellFormed : here.WellFormed)
    (above : List Folder) {name : Text} (down : name ≠ Path.placeAbove) {place : Place} :
    step (.within here above) name = .ok place ↔
      ∃ entry, here.find? name = some entry ∧ entry.place here above = place := by
  unfold step
  dsimp only
  rw [if_neg down]
  cases found : here.find? name with
  | none => split <;> simp
  | some entry =>
    rw [(wellFormed.of_find? found).1.short]
    cases entry <;> simp [Entry.place]

/-- Behind a file no name leads anywhere. -/
theorem eq_nil_of_foldlM_atFile {names : List Text} {content : Content} {place : Place}
    (led : names.foldlM step (.atFile content) = .ok place) : names = [] := by
  cases names with
  | nil => rfl
  | cons name names => exact nomatch led

/-- The search finds the names that lead down to a file and of which the last has the ending. -/
theorem WellFormed.mem_sourceFiles_iff {here : Folder} (wellFormed : here.WellFormed)
    (above : List Folder) {ending : Text} {names : List Text} (down : Path.placeAbove ∉ names) :
    names ∈ here.sourceFiles ending ↔
      ending <:+ names.getLastD [] ∧
        ∃ content, names.foldlM step (.within here above) = .ok (.atFile content) := by
  induction names generalizing here above with
  | nil =>
    refine iff_of_false (nil_not_mem_sourceFiles ending here) ?_
    rintro ⟨_, content, led⟩
    exact nomatch led
  | cons name names inductionHypothesis =>
    rw [List.mem_cons, not_or] at down
    have stepped {place : Place} : step (.within here above) name = .ok place ↔
        ∃ entry, here.find? name = some entry ∧ entry.place here above = place :=
      wellFormed.step_eq_ok_iff above (Ne.symm down.1)
    have inner {inside : Folder} (found : here.find? name = some (.folder inside)) :=
      inductionHypothesis ((wellFormed.of_find? found).2 inside rfl) (here :: above) down.2
    rw [wellFormed.cons_mem_sourceFiles_iff, List.foldlM_cons]
    constructor
    · rintro (⟨rfl, ends, content, found⟩ | ⟨inside, found, member⟩)
      · rw [stepped.mpr ⟨_, found, rfl⟩]
        exact ⟨ends, content, rfl⟩
      · rw [stepped.mpr ⟨_, found, rfl⟩]
        obtain ⟨ends, content, led⟩ := (inner found).mp member
        -- The path does not end at a folder, so its last name is that of the rest.
        cases names with
        | nil => exact nomatch led
        | cons next names => exact ⟨ends, content, led⟩
    · rintro ⟨ends, content, led⟩
      obtain ⟨place, first, led⟩ := bind_eq_ok_iff.mp led
      obtain ⟨entry, found, rfl⟩ := stepped.mp first
      cases entry with
      | file other =>
        obtain rfl := eq_nil_of_foldlM_atFile led
        exact Or.inl ⟨rfl, ends, other, found⟩
      | folder inside =>
        refine Or.inr ⟨inside, found, (inner found).mpr ?_⟩
        cases names with
        | nil => exact nomatch led
        | cons next names => exact ⟨ends, content, led⟩

end Folder

end IgniterLint
