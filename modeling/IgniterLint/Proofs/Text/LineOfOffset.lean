/-
This file says where the cursor stands in terms of the whole text. The position of an offset is
found by walking the characters in front of it, and what comes behind is not looked at. The lines of
the text are only known once all of it is: a carriage return at the end of the walk may turn out to
be half of a break. The two still agree. The line of the position is the last one that starts at the
offset or before it, and the column counts from its start, but never past its content.

The walk is compared with the table at a cut that goes through no break. The line at such a cut is
made of the characters that the column counts and of the first line of what comes behind.
-/

import IgniterLint.Proofs.Text.LineTable

namespace IgniterLint

open Text (CutsBreak)

namespace Text

/-! ### Where lines start -/

theorem lineStart_succ {text : Text} {number : Nat} {line : Line}
    (found : text.lines[number]? = some line) :
    text.lineStart (number + 1) = text.lineStart number + line.size := by
  have started (count : Nat) :
      text.lineStart count = ((text.lines.take count).map Line.size).sum := by
    rw [lineStart, List.sum, List.foldr_map]
  rw [started, started, List.take_add_one, found, Option.toList_some, List.map_append,
    List.sum_append]
  rfl

/-- Every line but the last is ended by a break. -/
theorem ending_ne_nil {text : Text} {number : Nat} {line : Line}
    (found : text.lines[number]? = some line) (followed : number + 1 < text.lines.length) :
    line.ending ≠ [] := by
  induction text using breakInduction generalizing number line with
  | nil => exact absurd followed (by simp [lines])
  | pair rest inductionHypothesis =>
    rw [lines_pair] at found followed
    cases number with
    | zero =>
      obtain rfl := Option.some.inj found
      exact List.cons_ne_nil _ _
    | succ number => exact inductionHypothesis found (Nat.lt_of_succ_lt_succ followed)
  | char c rest apart inductionHypothesis =>
    rw [lines_cons _ _ apart] at found followed
    split at found
    · next broken =>
      rw [if_pos broken] at followed
      cases number with
      | zero =>
        obtain rfl := Option.some.inj found
        exact List.cons_ne_nil _ _
      | succ number => exact inductionHypothesis found (Nat.lt_of_succ_lt_succ followed)
    · next plain =>
      rw [if_neg plain, List.length_modifyHead] at followed
      cases number with
      | zero =>
        rw [List.getElem?_modifyHead_zero, Option.map_eq_some_iff] at found
        obtain ⟨first, isFirst, rfl⟩ := found
        have ended : first.ending ≠ [] := inductionHypothesis isFirst followed
        exact ended
      | succ number =>
        rw [List.getElem?_modifyHead_succ] at found
        exact inductionHypothesis found followed

theorem lineStart_lt {text : Text} {number other : Nat} (before : number < other)
    (inside : other < text.lines.length) : text.lineStart number < text.lineStart other := by
  induction other with
  | zero => exact absurd before (Nat.not_lt_zero number)
  | succ other inductionHypothesis =>
    obtain ⟨line, found⟩ : ∃ line, text.lines[other]? = some line :=
      ⟨_, List.getElem?_eq_getElem (Nat.lt_of_succ_lt inside)⟩
    have filled := List.length_pos_iff.mpr (ending_ne_nil found inside)
    rw [lineStart_succ found, Line.size]
    rcases Nat.eq_or_lt_of_le (Nat.le_of_lt_succ before) with same | earlier
    · rw [same]
      omega
    · have upTo := inductionHypothesis earlier (Nat.lt_of_succ_lt inside)
      omega

theorem lineStart_le {text : Text} {number other : Nat} (upTo : number ≤ other)
    (inside : other < text.lines.length) : text.lineStart number ≤ text.lineStart other := by
  rcases Nat.eq_or_lt_of_le upTo with same | before
  · exact Nat.le_of_eq (congrArg _ same)
  · exact Nat.le_of_lt (lineStart_lt before inside)

/-- The line with more characters in front. -/
def Line.prepend (front : Text) (line : Line) : Line :=
  { line with content := front ++ line.content }

end Text

namespace Position

/-! ### The line at a cut -/

/-- At a cut that goes through no break, the line of the cursor is made of as many characters as
the cursor's column counts, and of the first line behind the cut. -/
theorem exists_line_past (before after : Text) (whole : ¬ CutsBreak before after) :
    ∃ front : Text, front.length = (origin.past before).column ∧
      (before ++ after).lines[(origin.past before).line]? =
        after.lines.head?.map (Text.Line.prepend front) := by
  induction before using Text.breakInduction with
  | nil =>
    refine ⟨[], rfl, ?_⟩
    show after.lines[0]? = after.lines.head?.map id
    rw [Option.map_id, List.head?_eq_getElem?]
    rfl
  | pair rest inductionHypothesis =>
    obtain ⟨front, counted, found⟩ := inductionHypothesis fun cut => whole ((cut.cons _).cons _)
    refine ⟨front, ?_, ?_⟩
    · rw [past_pair, past_eq_advance, nextLine_origin_advance, counted]
    · rw [past_pair, past_eq_advance, nextLine_origin_advance, List.cons_append, List.cons_append,
        Text.lines_pair, List.getElem?_cons_succ, found]
  | char c rest apart inductionHypothesis =>
    obtain ⟨front, counted, found⟩ := inductionHypothesis fun cut => whole (cut.cons _)
    have apartWhole := Text.not_cutsBreak_append apart whole
    rw [past_cons _ _ _ apart, past_eq_advance, List.cons_append, Text.lines_cons _ _ apartWhole]
    split
    · refine ⟨front, ?_, ?_⟩
      · rw [nextLine_origin_advance, counted]
      · rw [nextLine_origin_advance, List.getElem?_cons_succ, found]
    · -- A character that breaks nothing belongs to the first line, which is the cursor's or not.
      generalize origin.past rest = position at counted found ⊢
      obtain ⟨line, column⟩ := position
      cases line with
      | zero =>
        have moved : origin.nextColumn.advance ⟨0, column⟩ = ⟨0, 0 + 1 + column⟩ := rfl
        refine ⟨c :: front, ?_, ?_⟩
        · rw [moved, List.length_cons, counted, Nat.zero_add, Nat.add_comm]
        · rw [moved, List.getElem?_modifyHead_zero, found, Option.map_map]
          rfl
      | succ line =>
        have moved : origin.nextColumn.advance ⟨line + 1, column⟩ = ⟨0 + (line + 1), column⟩ := rfl
        refine ⟨front, ?_, ?_⟩
        · rw [moved, counted]
        · rw [moved, Nat.zero_add, List.getElem?_modifyHead_succ, found]

/-- The place of a cut that goes through no break, read off the table: a line, and the number of
its characters in front of the cut. -/
theorem exists_place_past (before after : Text) (whole : ¬ CutsBreak before after) :
    ∃ number front first, after.lines.head? = some first ∧
      (before ++ after).lines[number]? = some (first.prepend front) ∧
      (before ++ after).lineStart number + front.length = before.length ∧
      origin.past before = ⟨number, front.length⟩ := by
  obtain ⟨front, counted, found⟩ := exists_line_past before after whole
  obtain ⟨first, others, split⟩ := List.exists_cons_of_ne_nil after.lines_ne_nil
  have decoded := offsetIn_past before after whole
  rw [offsetIn, Option.ite_none_right_eq_some, Option.some.injEq] at decoded
  refine ⟨(origin.past before).line, front, first, by rw [split]; rfl, ?_, ?_, ?_⟩
  · rw [found, split]
    rfl
  · rw [counted]
    exact decoded.2
  · rw [counted]

end Position

namespace Text

/-! ### The line of an offset -/

/-- Of the lines that start at the offset or before it, this is the last. -/
structure LastStarting (text : Text) (offset number : Nat) (line : Line) : Prop where
  found : text.lines[number]? = some line
  starts : text.lineStart number ≤ offset
  last : ∀ other < text.lines.length, text.lineStart other ≤ offset →
    other ≤ number ∧ text.lineStart other ≤ text.lineStart number

/-- A line that starts at the offset or before it, and is not over there, is the last to do so. -/
theorem lastStarting_of_within {text : Text} {offset number : Nat} {line : Line}
    (found : text.lines[number]? = some line) (starts : text.lineStart number ≤ offset)
    (within : line.ending ≠ [] → offset < text.lineStart number + line.size) :
    text.LastStarting offset number line := by
  refine ⟨found, starts, fun other inside otherStarts => ?_⟩
  have upTo : other ≤ number := by
    refine Nat.le_of_not_lt fun behind => ?_
    have closed := within (ending_ne_nil found (Nat.lt_of_le_of_lt behind inside))
    have next := lineStart_le (Nat.succ_le_of_lt behind) inside
    rw [lineStart_succ found] at next
    omega
  exact ⟨upTo, lineStart_le upTo (List.getElem?_eq_some_iff.mp found).1⟩

/-- The position of a cut that goes through no break, and of the offset behind the carriage return
if a whole break follows. -/
theorem exists_lastStarting_past (before after : Text) (whole : ¬ CutsBreak before after)
    (offset : Nat) (close : offset = before.length ∨
      offset = before.length + 1 ∧ ∃ rest, after = '\r' :: '\n' :: rest) :
    ∃ number line, (before ++ after).LastStarting offset number line ∧
      Position.origin.past before =
        ⟨number, min (offset - (before ++ after).lineStart number) line.content.length⟩ := by
  obtain ⟨number, front, first, isFirst, found, place, position⟩ :=
    Position.exists_place_past before after whole
  refine ⟨number, first.prepend front, ?_, ?_⟩
  · refine lastStarting_of_within found (by omega) fun ended => ?_
    have filled := List.length_pos_iff.mpr ended
    rw [Line.size]
    rcases close with same | ⟨next, rest, rfl⟩
    · simp only [Line.prepend, List.length_append] at filled ⊢
      omega
    · rw [lines_pair, List.head?_cons, Option.some.injEq] at isFirst
      simp only [← isFirst, Line.prepend, List.length_append, List.length_cons, List.length_nil]
      omega
  · rw [position, Position.mk.injEq]
    refine ⟨rfl, ?_⟩
    rcases close with same | ⟨next, rest, rfl⟩
    · simp only [Line.prepend, List.length_append]
      omega
    · rw [lines_pair, List.head?_cons, Option.some.injEq] at isFirst
      simp only [← isFirst, Line.prepend, List.length_append, List.length_nil]
      omega

theorem exists_lastStarting_positionOf (text : Text) (offset : Nat)
    (inside : offset ≤ text.length) :
    ∃ number line, text.LastStarting offset number line ∧
      text.positionOf offset =
        ⟨number, min (offset - text.lineStart number) line.content.length⟩ := by
  cases split : text.splitsBreak offset with
  | false =>
    have uncut : ¬ CutsBreak (text.take offset) (text.drop offset) := by
      rw [cutsBreak_take_drop_iff _ _ inside, split]
      exact Bool.false_ne_true
    have found := exists_lastStarting_past _ _ uncut offset
      (Or.inl (List.length_take_of_le inside).symm)
    rwa [List.take_append_drop, ← positionOf_eq _ _ split] at found
  | true =>
    obtain ⟨isReturn, isFeed⟩ := (cutsBreak_take_drop_iff _ _ inside).mpr split
    -- The offset moves back to the front of the break, where no break lies across.
    obtain ⟨before, isBefore⟩ := List.getLast?_eq_some_iff.mp isReturn
    obtain ⟨rest, isRest⟩ := List.head?_eq_some_iff.mp isFeed
    have pieces : text = before ++ '\r' :: '\n' :: rest := by
      rw [← List.take_append_drop offset text, isBefore, isRest]
      simp
    have place : offset = before.length + 1 := by
      rw [← List.length_take_of_le inside, isBefore, List.length_append]
      rfl
    have uncut : ¬ CutsBreak before ('\r' :: '\n' :: rest) := fun cut => by
      simp [CutsBreak] at cut
    have found := exists_lastStarting_past before _ uncut offset (Or.inr ⟨place, rest, rfl⟩)
    rw [positionOf, settle, split, if_pos rfl, place, Nat.add_sub_cancel, ← place, pieces,
      List.take_left]
    exact found

/-- An offset has no position if it lies outside the text. Otherwise its line is the last one of the
table that starts at the offset or before it, and its column counts the characters from there, those
of the break aside. -/
theorem positionAt_eq_lineTable (text : Text) (offset : Int) :
    (offset < 0 ∨ (text.length : Int) < offset) ∧
        text.positionAt offset = .error (.outside offset text.length) ∨
      (0 ≤ offset ∧ offset ≤ text.length) ∧
        ∃ number line, text.LastStarting offset.toNat number line ∧
          text.positionAt offset =
            .ok ⟨number, min (offset.toNat - text.lineStart number) line.content.length⟩ := by
  by_cases outside : offset < 0 ∨ (text.length : Int) < offset
  · exact Or.inl ⟨outside, by rw [positionAt, if_pos outside]⟩
  · have inside : offset.toNat ≤ text.length := by omega
    have isOffset : (offset.toNat : Int) = offset := Int.toNat_of_nonneg (by omega)
    obtain ⟨number, line, lastStarting, position⟩ :=
      exists_lastStarting_positionOf text offset.toNat inside
    refine Or.inr ⟨by omega, number, line, lastStarting, ?_⟩
    rw [← position, ← positionAt_eq _ _ inside, isOffset]

-- Between the two halves of a break, the column stops at the end of the line.
example : positionAt "ab\r\nc".toList 3 = .ok ⟨0, 2⟩ := by decide

end Text

end IgniterLint
