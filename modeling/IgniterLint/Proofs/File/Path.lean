/-
This file takes paths from their names to their written form and back. A piece is a text that can
stand between two slashes and still be itself when the path is read: it is not empty, is not the
name of the place itself, and has no slash in it. A name may not have a null character either, which
the system does not take. What is read from a text is made of pieces, and of names if no null
character is in it; and a path made of pieces is read back from what is written.
-/

import Mathlib.Data.List.Basic
import IgniterLint.File.Path

namespace IgniterLint

namespace Text

theorem mem_joinWith {separator : Text} {texts : List Text} {c : Char}
    (member : c ∈ joinWith separator texts) : c ∈ separator ∨ ∃ text ∈ texts, c ∈ text := by
  induction texts using joinWith.induct with
  | case1 => exact absurd member List.not_mem_nil
  | case2 last => exact Or.inr ⟨last, List.mem_cons_self, member⟩
  | case3 first second rest inductionHypothesis =>
    rw [joinWith, List.append_assoc, List.mem_append, List.mem_append] at member
    rcases member with here | between | later
    · exact Or.inr ⟨first, List.mem_cons_self, here⟩
    · exact Or.inl between
    · refine (inductionHypothesis later).imp_right ?_
      rintro ⟨text, inRest, inText⟩
      exact ⟨text, List.mem_cons_of_mem first inRest, inText⟩

theorem mem_joinWith_of_mem {separator text : Text} {texts : List Text} {c : Char}
    (member : text ∈ texts) (inText : c ∈ text) : c ∈ joinWith separator texts := by
  induction texts using joinWith.induct with
  | case1 => exact absurd member List.not_mem_nil
  | case2 last =>
    obtain rfl := List.mem_singleton.mp member
    exact inText
  | case3 first second rest inductionHypothesis =>
    rw [joinWith, List.append_assoc, List.mem_append, List.mem_append]
    rcases List.mem_cons.mp member with rfl | later
    · exact Or.inl inText
    · exact Or.inr (Or.inr (inductionHypothesis later))

end Text

namespace Path

/-- A text that a path can have as a name. -/
@[mk_iff]
structure IsName (name : Text) : Prop where
  filled : name ≠ []
  elsewhere : name ≠ samePlace
  slashless : '/' ∉ name
  nullless : '\x00' ∉ name

instance (name : Text) : Decidable (IsName name) := decidable_of_iff' _ (isName_iff name)

/-- A text that stands between two slashes and is still itself when the path is read. -/
structure IsPiece (name : Text) : Prop where
  filled : name ≠ []
  elsewhere : name ≠ samePlace
  slashless : '/' ∉ name

theorem IsName.isPiece {name : Text} (isName : IsName name) : IsPiece name :=
  ⟨isName.filled, isName.elsewhere, isName.slashless⟩

/-! ### Cutting at slashes -/

theorem splitSlashes_slash (rest : Text) :
    splitSlashes ('/' :: rest) = [] :: splitSlashes rest := by
  rw [splitSlashes, if_pos rfl]

theorem splitSlashes_ne_nil (text : Text) : splitSlashes text ≠ [] := by
  cases text with
  | nil => exact List.cons_ne_nil _ _
  | cons c rest =>
    rw [splitSlashes]
    split
    · exact List.cons_ne_nil _ _
    · split <;> exact List.cons_ne_nil _ _

theorem splitSlashes_cons {c : Char} (other : c ≠ '/') (rest : Text) :
    splitSlashes (c :: rest) = (splitSlashes rest).modifyHead (c :: ·) := by
  rw [splitSlashes, if_neg other]
  cases split : splitSlashes rest with
  | nil => exact absurd split (splitSlashes_ne_nil rest)
  | cons name names => rfl

theorem splitSlashes_append (name rest : Text) (slashless : '/' ∉ name) :
    splitSlashes (name ++ rest) = (splitSlashes rest).modifyHead (name ++ ·) := by
  induction name with
  | nil => exact (congrFun List.modifyHead_id _).symm
  | cons c name inductionHypothesis =>
    rw [List.mem_cons, not_or] at slashless
    rw [List.cons_append, splitSlashes_cons (Ne.symm slashless.1),
      inductionHypothesis slashless.2, List.modifyHead_modifyHead]
    rfl

theorem splitSlashes_joinWith (names : List Text) (filled : names ≠ [])
    (slashless : ∀ name ∈ names, '/' ∉ name) :
    splitSlashes (Text.joinWith "/".toList names) = names := by
  induction names using Text.joinWith.induct with
  | case1 => exact absurd rfl filled
  | case2 last =>
    have split := splitSlashes_append last [] (slashless last List.mem_cons_self)
    rw [List.append_nil] at split
    rw [Text.joinWith, split]
    show [last ++ []] = [last]
    rw [List.append_nil]
  | case3 first second rest inductionHypothesis =>
    have split : splitSlashes ("/".toList ++ Text.joinWith "/".toList (second :: rest)) =
        [] :: second :: rest := by
      refine (splitSlashes_slash _).trans (congrArg _ (inductionHypothesis ?_ ?_))
      · exact List.cons_ne_nil _ _
      · exact fun name member => slashless name (List.mem_cons_of_mem first member)
    rw [Text.joinWith, List.append_assoc,
      splitSlashes_append first _ (slashless first List.mem_cons_self), split,
      List.modifyHead_cons, List.append_nil]

theorem mem_of_mem_splitSlashes {text piece : Text} (cut : piece ∈ splitSlashes text) {c : Char}
    (member : c ∈ piece) : c ∈ text ∧ c ≠ '/' := by
  induction text generalizing piece with
  | nil =>
    rw [splitSlashes, List.mem_singleton] at cut
    exact absurd member (cut ▸ List.not_mem_nil)
  | cons d rest inductionHypothesis =>
    have later {piece : Text} (cut : piece ∈ splitSlashes rest) (member : c ∈ piece) :
        c ∈ d :: rest ∧ c ≠ '/' :=
      (inductionHypothesis cut member).imp_left (List.mem_cons_of_mem d)
    by_cases isSlash : d = '/'
    · rw [isSlash, splitSlashes_slash, List.mem_cons] at cut
      rcases cut with rfl | cut
      · exact absurd member List.not_mem_nil
      · exact later cut member
    · rw [splitSlashes_cons isSlash] at cut
      obtain ⟨first, others, split⟩ := List.exists_cons_of_ne_nil (splitSlashes_ne_nil rest)
      rw [split, List.modifyHead_cons, List.mem_cons] at cut
      rcases cut with rfl | cut
      · rcases List.mem_cons.mp member with rfl | member
        · exact ⟨List.mem_cons_self, isSlash⟩
        · exact later (split ▸ List.mem_cons_self) member
      · exact later (split ▸ List.mem_cons_of_mem first cut) member

/-! ### Reading and writing -/

/-- What is read from a text is made of pieces of it. -/
theorem isPiece_of_mem_ofText {text : Text} : ∀ name ∈ (ofText text).names, IsPiece name := by
  intro name member
  obtain ⟨cut, kept⟩ := List.mem_filter.mp member
  rw [Bool.and_eq_true, Bool.not_eq_true', List.isEmpty_eq_false_iff, bne_iff_ne] at kept
  exact ⟨kept.1, kept.2, fun slash => (mem_of_mem_splitSlashes cut slash).2 rfl⟩

/-- What is read from a text without null characters is made of names. -/
theorem isName_of_mem_ofText {text : Text} (nullless : '\x00' ∉ text) :
    ∀ name ∈ (ofText text).names, IsName name := by
  intro name member
  obtain ⟨filled, elsewhere, slashless⟩ := isPiece_of_mem_ofText name member
  exact ⟨filled, elsewhere, slashless, fun null =>
    nullless (mem_of_mem_splitSlashes (List.mem_of_mem_filter member) null).1⟩

/-- A path has null characters where its names have them. -/
theorem hasNull_eq_false_iff {path : Path} :
    path.hasNull = false ↔ ∀ name ∈ path.names, '\x00' ∉ name := by
  rw [hasNull, List.contains_eq_mem, decide_eq_false_iff_not, render]
  split
  · next nothing => exact iff_of_true (by decide) (by simp [nothing.2])
  · rw [List.mem_append, not_or]
    constructor
    · exact fun absent name member null => absent.2 (Text.mem_joinWith_of_mem member null)
    · intro nullless
      refine ⟨by cases path.root <;> decide, fun null => ?_⟩
      rcases Text.mem_joinWith null with separator | ⟨name, member, inName⟩
      · exact absurd separator (by decide)
      · exact nullless name member inName

theorem hasNull_eq_false {path : Path} (named : ∀ name ∈ path.names, IsName name) :
    path.hasNull = false :=
  hasNull_eq_false_iff.mpr fun name member => (named name member).nullless

theorem rootOf_render_append (root : Root) {rest : Text} (behind : rest.head? ≠ some '/') :
    rootOf (root.render ++ rest) = root := by
  have none : rest.takeWhile (· == '/') = [] := by
    cases rest with
    | nil => rfl
    | cons c rest =>
      refine List.takeWhile_cons_of_neg fun slash => behind ?_
      rw [List.head?_cons, beq_iff_eq.mp slash]
  cases root <;> simp [rootOf, Root.render, none]

theorem head?_joinWith_ne {names : List Text} (named : ∀ name ∈ names, IsPiece name) :
    (Text.joinWith "/".toList names).head? ≠ some '/' := by
  intro slash
  cases names using Text.joinWith.induct with
  | case1 => exact absurd slash (by decide)
  | case2 last => exact (named last List.mem_cons_self).slashless (List.mem_of_head? slash)
  | case3 first second rest =>
    have firstNamed := named first List.mem_cons_self
    rw [Text.joinWith, List.append_assoc, List.head?_append_of_ne_nil _ firstNamed.filled] at slash
    exact firstNamed.slashless (List.mem_of_head? slash)

theorem splitSlashes_render_append (root : Root) (rest : Text) :
    (splitSlashes (root.render ++ rest)).filter (fun name => !name.isEmpty && name != samePlace) =
      (splitSlashes rest).filter fun name => !name.isEmpty && name != samePlace := by
  cases root <;> rfl

/-- A path made of pieces is read back from its written form. -/
theorem ofText_render {path : Path} (named : ∀ name ∈ path.names, IsPiece name) :
    ofText path.render = path := by
  obtain ⟨root, names⟩ := path
  rw [render]
  split
  · next nothing =>
    obtain ⟨rfl, rfl⟩ := nothing
    rfl
  · rw [ofText, rootOf_render_append root (head?_joinWith_ne named),
      splitSlashes_render_append]
    congr 1
    cases names with
    | nil => rfl
    | cons first rest =>
      rw [splitSlashes_joinWith _ (List.cons_ne_nil _ _) fun name member =>
        (named name member).slashless]
      refine List.filter_eq_self.mpr fun name member => ?_
      rw [Bool.and_eq_true, Bool.not_eq_true', List.isEmpty_eq_false_iff, bne_iff_ne]
      exact ⟨(named name member).filled, (named name member).elsewhere⟩

end Path

end IgniterLint
