/-
This file carries the searches through a source text over to the text with unified breaks. A break
may stand inside what is searched for, between the keyword and the name of a class or in the
argument of a call, and then the two texts do not even agree on lengths. What agrees is the
spelling, break by break: a piece of the text is a call or a declaration exactly when its unified
form is one. So the two searches walk side by side and find the same things, in the same lines and
columns.
-/

import Mathlib.Data.List.Forall2
import IgniterLint.Proofs.Source.Occurrence
import IgniterLint.Proofs.Text.UnifiedBreaks

namespace IgniterLint

open Text (CutsBreak Unbroken unifyBreaks)

namespace Span

/-- The spans lie in the same lines and columns, each in its own text. -/
def SamePlace (first second : Text) (here there : Span) : Prop :=
  first.positionOf here.start = second.positionOf there.start ∧
    first.positionOf here.stop = second.positionOf there.stop

/-- A piece that no break runs into lies where its unified form lies in the unified text. -/
theorem samePlace_unifyBreaks (before piece after : Text) (filled : piece ≠ [])
    (start : piece.head? ≠ some '\n') (stop : piece.getLast? ≠ some '\r') :
    SamePlace (before ++ (piece ++ after)) (unifyBreaks (before ++ (piece ++ after)))
      (ofLength before.length piece.length)
      (ofLength (unifyBreaks before).length (unifyBreaks piece).length) := by
  have startWhole : ¬ CutsBreak before (piece ++ after) := by
    rintro ⟨_, startsFeed⟩
    rw [List.head?_append_of_ne_nil piece filled] at startsFeed
    exact start startsFeed
  have pieceWhole : ¬ CutsBreak piece after := fun cut => stop cut.1
  have stopWhole : ¬ CutsBreak (before ++ piece) after := by
    rw [Text.cutsBreak_append_iff _ _ _ filled]
    exact pieceWhole
  have unified : unifyBreaks (before ++ piece) = unifyBreaks before ++ unifyBreaks piece := by
    refine Text.unifyBreaks_append _ _ fun cut => start cut.2
  constructor
  · show Text.positionOf _ before.length = Text.positionOf _ (unifyBreaks before).length
    rw [Text.unifyBreaks_append _ _ startWhole, Text.positionOf_append _ _ startWhole,
      Text.positionOf_append _ _ (Text.not_cutsBreak_unifyBreaks _ _), Text.past_unifyBreaks]
  · show Text.positionOf _ (before.length + piece.length) =
      Text.positionOf _ ((unifyBreaks before).length + (unifyBreaks piece).length)
    rw [← List.length_append, ← List.length_append, ← unified, ← List.append_assoc,
      Text.unifyBreaks_append _ _ stopWhole, Text.positionOf_append _ _ stopWhole,
      Text.positionOf_append _ _ (Text.not_cutsBreak_unifyBreaks _ _), Text.past_unifyBreaks]

end Span

namespace QuotedCall

/-! ### Calls -/

theorem isMark_ne_break {c : Char} (marked : isMark c = true) : c ≠ '\r' ∧ c ≠ '\n' := by
  constructor <;> rintro rfl <;> exact absurd marked (by decide)

theorem IsCall.unifyBreaks {opening argument call : Text} (spelled : IsCall opening argument call)
    (unbroken : Unbroken opening) : IsCall opening argument.unifyBreaks call.unifyBreaks := by
  obtain ⟨left, right, leftMark, rightMark, filled, unmarked, rfl⟩ := spelled
  have ending : Unbroken [right, ')'] := by
    intro c member
    simp only [List.mem_cons, List.not_mem_nil, or_false] at member
    rcases member with rfl | rfl
    · exact isMark_ne_break rightMark
    · decide
  have argumentWhole : ¬ CutsBreak argument [right, ')'] :=
    fun cut => (isMark_ne_break rightMark).2 (Option.some.inj cut.2)
  refine ⟨left, right, leftMark, rightMark, Text.unifyBreaks_ne_nil filled, ?_, ?_⟩
  · intro c member
    rcases Text.mem_unifyBreaks member with rfl | member
    · decide
    · exact unmarked c member
  · rw [Text.unifyBreaks_append _ _ (unbroken.not_cutsBreak _),
      Text.unifyBreaks_of_unbroken _ unbroken,
      Text.unifyBreaks_cons_of_ne _ _ (isMark_ne_break leftMark).1,
      Text.unifyBreaks_append _ _ argumentWhole, Text.unifyBreaks_of_unbroken _ ending]

theorem exists_isCall_of_unifyBreaks {opening argument call : Text}
    (spelled : IsCall opening argument call.unifyBreaks) (unbroken : Unbroken opening) :
    ∃ broken, IsCall opening broken call := by
  obtain ⟨left, right, leftMark, rightMark, filled, unmarked, split⟩ := spelled
  obtain ⟨front, tail, rfl, _, frontUnified, tailUnified⟩ :=
    Text.exists_split_of_unifyBreaks call _ _ split
  obtain rfl := Text.eq_of_unifyBreaks_eq front opening frontUnified unbroken
  obtain ⟨mark, inner, rfl, _, markUnified, innerUnified⟩ :=
    Text.exists_split_of_unifyBreaks tail [left] _ tailUnified
  obtain rfl := Text.eq_of_unifyBreaks_eq mark [left] markUnified fun c member => by
    rw [List.mem_singleton.mp member]
    exact isMark_ne_break leftMark
  obtain ⟨broken, ending, rfl, _, rfl, endingUnified⟩ :=
    Text.exists_split_of_unifyBreaks inner argument _ innerUnified
  obtain rfl := Text.eq_of_unifyBreaks_eq ending [right, ')'] endingUnified fun c member => by
    simp only [List.mem_cons, List.not_mem_nil, or_false] at member
    rcases member with rfl | rfl
    · exact isMark_ne_break rightMark
    · decide
  refine ⟨broken, left, right, leftMark, rightMark, ?_, ?_, rfl⟩
  · rintro rfl
    exact filled rfl
  · intro c member
    by_cases isReturn : c = '\r'
    · rw [isReturn]
      decide
    · exact unmarked c (Text.mem_unifyBreaks_of_ne member isReturn)

theorem argumentAt?_unifyBreaks_eq_none {opening text : Text} (unbroken : Unbroken opening)
    (nothing : argumentAt? opening text = none) : argumentAt? opening text.unifyBreaks = none := by
  rw [Option.eq_none_iff_forall_ne_some] at nothing ⊢
  intro argument found
  obtain ⟨spelled, rest, isCall, split⟩ := (argumentAt?_eq_some_iff _ _ _).mp found
  obtain ⟨call, after, rfl, _, rfl, _⟩ := Text.exists_split_of_unifyBreaks text _ _ split
  obtain ⟨broken, isBroken⟩ := exists_isCall_of_unifyBreaks isCall unbroken
  exact nothing broken ((argumentAt?_eq_some_iff _ _ _).mpr ⟨call, after, isBroken, rfl⟩)

/-- The opening words are words: there are some, and no break is among them. -/
structure OpensUnbroken (opening : Text) : Prop where
  filled : opening ≠ []
  unbroken : Unbroken opening

theorem OpensUnbroken.opensWhole {opening : Text} (opens : OpensUnbroken opening) :
    OpensWhole opening :=
  ⟨opens.filled, fun startsFeed =>
    (opens.unbroken '\n' (List.mem_of_head? startsFeed)).2 rfl⟩

theorem OpensUnbroken.argumentAt?_eq_none {opening : Text} (opens : OpensUnbroken opening)
    {c : Char} (isBreak : c = '\r' ∨ c = '\n') (rest : Text) :
    argumentAt? opening (c :: rest) = none := by
  rw [Option.eq_none_iff_forall_ne_some]
  intro argument found
  obtain ⟨call, after, isCall, split⟩ := (argumentAt?_eq_some_iff _ _ _).mp found
  have starts : opening.head? = some c := by
    rw [← isCall.head?_eq opens.filled, ← List.head?_append_of_ne_nil call isCall.ne_nil, ← split]
    rfl
  have plain := opens.unbroken c (List.mem_of_head? starts)
  exact isBreak.elim plain.1 plain.2

/-- The calls give the same argument, up to breaks, and lie in the same lines and columns. -/
structure SameCall (first second : Text) (here there : QuotedCall) : Prop where
  argument : there.argument = here.argument.unifyBreaks
  place : Span.SamePlace first second here.span there.span

/-- The scans of a text and of the unified text find the same calls. -/
theorem forall₂_findFrom_unifyBreaks {opening : Text} (opens : OpensUnbroken opening)
    (before text : Text) (whole : ¬ CutsBreak before text) :
    List.Forall₂ (SameCall (before ++ text) (before ++ text).unifyBreaks)
      (findFrom opening before.length 0 text)
      (findFrom opening before.unifyBreaks.length 0 text.unifyBreaks) := by
  -- Both scans take a whole call at a time, and a whole break, so the induction is on the length of
  -- what is left.
  induction length : text.length using Nat.strong_induction_on generalizing before text with
  | _ left inductionHypothesis =>
    have next : ∀ passed rest, text = passed ++ rest → passed ≠ [] →
        ¬ CutsBreak (before ++ passed) rest →
        List.Forall₂ (SameCall (before ++ text) (before ++ text).unifyBreaks)
          (findFrom opening (before.length + passed.length) 0 rest)
          (findFrom opening (before.unifyBreaks.length + passed.unifyBreaks.length) 0
            rest.unifyBreaks) := by
      rintro passed rest rfl filled wholeRest
      have shorter : rest.length < left := by
        rw [← length, List.length_append]
        exact Nat.lt_add_of_pos_left (List.length_pos_iff.mpr filled)
      have passedWhole : ¬ CutsBreak before passed := fun cut =>
        whole ⟨cut.1, by rw [List.head?_append_of_ne_nil passed filled]; exact cut.2⟩
      have tail := inductionHypothesis _ shorter (before ++ passed) rest wholeRest rfl
      rwa [List.append_assoc, Text.unifyBreaks_append _ _ passedWhole, List.length_append,
        List.length_append] at tail
    cases found : argumentAt? opening text with
    | some argument =>
      obtain ⟨call, rest, spelled, rfl⟩ := (argumentAt?_eq_some_iff _ _ _).mp found
      have ending : call.getLast? ≠ some '\r' := by
        rw [spelled.getLast?_eq]
        decide
      have starting : call.head? ≠ some '\n' := by
        rw [spelled.head?_eq opens.filled]
        exact opens.opensWhole.2
      have callWhole : ¬ CutsBreak call rest := fun cut => ending cut.1
      have tail := next call rest rfl spelled.ne_nil
        (by rw [Text.cutsBreak_append_iff _ _ _ spelled.ne_nil]; exact callWhole)
      rw [findFrom_call _ _ _ _ _ spelled, Text.unifyBreaks_append _ _ callWhole,
        findFrom_call _ _ _ _ _ (spelled.unifyBreaks opens.unbroken)]
      exact .cons ⟨rfl, Span.samePlace_unifyBreaks _ _ _ spelled.ne_nil starting ending⟩ tail
    | none =>
      have nothing := argumentAt?_unifyBreaks_eq_none opens.unbroken found
      cases text using Text.breakInduction with
      | nil => exact .nil
      | pair rest =>
        have tail := next ['\r', '\n'] rest rfl (by simp) (by simp [CutsBreak])
        rw [Text.unifyBreaks_pair] at nothing ⊢
        rw [findFrom_other _ _ _ _ found, findFrom_other _ _ _ _ nothing,
          findFrom_other _ _ _ _ (opens.argumentAt?_eq_none (Or.inr rfl) rest)]
        exact tail
      | char c rest apart =>
        have tail := next [c] rest rfl (by simp)
          (by rw [Text.cutsBreak_append_iff _ _ _ (by simp)]; exact apart)
        rw [Text.length_unifyBreaks_singleton] at tail
        rw [Text.unifyBreaks_cons _ _ apart] at nothing ⊢
        rw [findFrom_other _ _ _ _ found, findFrom_other _ _ _ _ nothing]
        exact tail

theorem forall₂_findAll_unifyBreaks {opening : Text} (opens : OpensUnbroken opening) (text : Text) :
    List.Forall₂ (SameCall text text.unifyBreaks) (findAll opening text)
      (findAll opening text.unifyBreaks) :=
  forall₂_findFrom_unifyBreaks opens [] text (Text.not_cutsBreak_nil text)

end QuotedCall

namespace ClassDeclaration

/-! ### Declarations -/

theorem unbroken_keyword : Unbroken keyword := by decide

theorem unbroken_of_isNameChar {name : Text} (named : ∀ c ∈ name, isNameChar c = true) :
    Unbroken name := by
  intro c member
  constructor <;> rintro rfl <;> exact absurd (named _ member) (by decide)

theorem IsDeclaration.unifyBreaks {declaration : Text} (spelled : IsDeclaration declaration) :
    IsDeclaration declaration.unifyBreaks := by
  obtain ⟨blanks, name, someBlank, blank, someName, named, rfl⟩ := spelled
  have blanksWhole : ¬ CutsBreak blanks name := fun cut =>
    absurd (named '\n' (List.mem_of_head? cut.2)) (by decide)
  refine ⟨Text.unifyBreaks blanks, name, Text.unifyBreaks_ne_nil someBlank, ?_, someName, named, ?_⟩
  · intro c member
    rcases Text.mem_unifyBreaks member with rfl | member
    · decide
    · exact blank c member
  · rw [Text.unifyBreaks_append _ _ (unbroken_keyword.not_cutsBreak _),
      Text.unifyBreaks_of_unbroken _ unbroken_keyword, Text.unifyBreaks_append _ _ blanksWhole,
      Text.unifyBreaks_of_unbroken _ (unbroken_of_isNameChar named)]

theorem isDeclaration_of_unifyBreaks {declaration : Text}
    (spelled : IsDeclaration declaration.unifyBreaks) : IsDeclaration declaration := by
  obtain ⟨blanks, name, someBlank, blank, someName, named, split⟩ := spelled
  obtain ⟨front, tail, rfl, _, frontUnified, tailUnified⟩ :=
    Text.exists_split_of_unifyBreaks declaration _ _ split
  obtain rfl := Text.eq_of_unifyBreaks_eq front keyword frontUnified unbroken_keyword
  obtain ⟨broken, rest, rfl, _, rfl, restUnified⟩ :=
    Text.exists_split_of_unifyBreaks tail blanks _ tailUnified
  obtain rfl := Text.eq_of_unifyBreaks_eq rest name restUnified (unbroken_of_isNameChar named)
  refine ⟨broken, rest, ?_, ?_, someName, named, rfl⟩
  · rintro rfl
    exact someBlank rfl
  · intro c member
    by_cases isReturn : c = '\r'
    · rw [isReturn]
      decide
    · exact blank c (Text.mem_unifyBreaks_of_ne member isReturn)

theorem lengthAt?_unifyBreaks_eq_none {text : Text} (nothing : lengthAt? text = none) :
    lengthAt? text.unifyBreaks = none := by
  rw [Option.eq_none_iff_forall_ne_some]
  intro length found
  obtain ⟨spelled, rest, split, isDeclaration, _⟩ := (lengthAt?_eq_some_iff _ _).mp found
  obtain ⟨declaration, after, rfl, _, rfl, _⟩ := Text.exists_split_of_unifyBreaks text _ _ split
  have recognised := isSome_lengthAt? declaration after (isDeclaration_of_unifyBreaks isDeclaration)
  rw [nothing] at recognised
  exact absurd recognised (by simp)

theorem lengthAt?_unifyBreaks_append (declaration after : Text)
    (spelled : IsDeclaration declaration)
    (stop : ∀ c, after.head? = some c → isNameChar c = false) :
    lengthAt? (declaration ++ after).unifyBreaks = some declaration.unifyBreaks.length := by
  rw [lengthAt?_eq_some_iff]
  refine ⟨declaration.unifyBreaks, after.unifyBreaks, ?_, spelled.unifyBreaks, rfl, ?_⟩
  · exact Text.unifyBreaks_append _ _ fun cut => spelled.getLast?_ne cut.1
  · intro c next
    rw [Text.head?_unifyBreaks, Option.map_eq_some_iff] at next
    obtain ⟨d, here, same⟩ := next
    split at same
    · rw [← same]
      decide
    · rw [← same]
      exact stop d here

theorem lengthAt?_eq_none_of_head {c : Char} (other : c ≠ 'c') (rest : Text) :
    lengthAt? (c :: rest) = none := by
  rw [Option.eq_none_iff_forall_ne_some]
  intro length found
  obtain ⟨declaration, after, split, spelled, _⟩ := (lengthAt?_eq_some_iff _ _).mp found
  have starts : (c :: rest).head? = some 'c' := by
    rw [split, List.head?_append_of_ne_nil declaration spelled.ne_nil, spelled.head?_eq]
  exact other (Option.some.inj starts)

/-- The searches of a text and of the unified text find the same declaration. -/
theorem rel_findFrom?_unifyBreaks (before text : Text) (whole : ¬ CutsBreak before text) :
    Option.Rel (Span.SamePlace (before ++ text) (before ++ text).unifyBreaks)
      (findFrom? before.length text) (findFrom? before.unifyBreaks.length text.unifyBreaks) := by
  induction text using Text.breakInduction generalizing before with
  | nil => exact .none
  | pair rest inductionHypothesis =>
    have tail := inductionHypothesis (before ++ ['\r', '\n']) (by simp [CutsBreak])
    have passedWhole : ¬ CutsBreak before ['\r', '\n'] := by simp [CutsBreak]
    rw [List.append_assoc, Text.unifyBreaks_append _ _ passedWhole, List.length_append,
      List.length_append] at tail
    rw [Text.unifyBreaks_pair, findFrom?, findFrom?, findFrom?,
      lengthAt?_eq_none_of_head (by decide), lengthAt?_eq_none_of_head (by decide),
      lengthAt?_eq_none_of_head (by decide)]
    exact tail
  | char c rest apart inductionHypothesis =>
    cases found : lengthAt? (c :: rest) with
    | some length =>
      obtain ⟨declaration, after, split, spelled, rfl, stop⟩ :=
        (lengthAt?_eq_some_iff _ _).mp found
      have unified := lengthAt?_unifyBreaks_append declaration after spelled stop
      have place := Span.samePlace_unifyBreaks before declaration after spelled.ne_nil
        (by rw [spelled.head?_eq]; decide) spelled.getLast?_ne
      rw [← split] at unified place
      rw [Text.unifyBreaks_cons _ _ apart] at unified ⊢
      rw [findFrom?, findFrom?, found, unified]
      exact .some place
    | none =>
      have passedWhole : ¬ CutsBreak before [c] := fun cut => whole ⟨cut.1, cut.2⟩
      have tail := inductionHypothesis (before ++ [c])
        (by rw [Text.cutsBreak_append_iff _ _ _ (by simp)]; exact apart)
      rw [List.append_assoc, Text.unifyBreaks_append _ _ passedWhole, List.length_append,
        List.length_append, Text.length_unifyBreaks_singleton] at tail
      have nothing := lengthAt?_unifyBreaks_eq_none found
      rw [Text.unifyBreaks_cons _ _ apart] at nothing ⊢
      rw [findFrom?, findFrom?, found, nothing]
      exact tail

theorem samePlace_find_unifyBreaks (text : Text) :
    Span.SamePlace text text.unifyBreaks (find text) (find text.unifyBreaks) := by
  have related : Option.Rel (Span.SamePlace text text.unifyBreaks) (findFrom? 0 text)
      (findFrom? 0 text.unifyBreaks) :=
    rel_findFrom?_unifyBreaks [] text (Text.not_cutsBreak_nil text)
  rw [find, find]
  generalize findFrom? 0 text = first at related ⊢
  generalize findFrom? 0 text.unifyBreaks = second at related ⊢
  cases related with
  | some place => exact place
  | none => exact ⟨rfl, rfl⟩

end ClassDeclaration

end IgniterLint
