/-
This file reads positions back. A text is split into its lines once and for all, each with the break
that ends it, and a position stands for the offset that its column counts from the start of its
line. The cursor that gives an offset its position walks the characters instead and never sees this
table; the two agree wherever a text is cut without pulling a carriage return and its line feed
apart.

The walk composes: passing two texts one after the other is passing the first and then, from there,
the second, unless the cut between them goes through a break. So a position moves on by what is
passed, whatever came before, and never moves back.
-/

import Mathlib.Data.List.Basic
import Mathlib.Data.List.Induction
import IgniterLint.Text.Position

namespace IgniterLint

namespace Text

/-! ### Cuts and breaks -/

/-- Cutting a text between these two parts pulls a carriage return and its line feed apart. -/
def CutsBreak (before after : Text) : Prop :=
  before.getLast? = some '\r' ∧ after.head? = some '\n'

instance (before after : Text) : Decidable (CutsBreak before after) :=
  inferInstanceAs (Decidable (_ ∧ _))

theorem not_cutsBreak_nil (after : Text) : ¬ CutsBreak [] after := by
  simp [CutsBreak]

theorem cutsBreak_singleton_iff (c : Char) (after : Text) :
    CutsBreak [c] after ↔ c = '\r' ∧ after.head? = some '\n' := by
  simp [CutsBreak]

theorem CutsBreak.cons {before after : Text} (c : Char) (cut : CutsBreak before after) :
    CutsBreak (c :: before) after := by
  refine ⟨?_, cut.2⟩
  rw [List.getLast?_cons, cut.1, Option.getD_some]

/-- A first character that cuts no break from the part behind it cuts none from the whole, unless it
is the last of its part. -/
theorem not_cutsBreak_append {c : Char} {rest after : Text} (apart : ¬ CutsBreak [c] rest)
    (whole : ¬ CutsBreak (c :: rest) after) : ¬ CutsBreak [c] (rest ++ after) := by
  cases rest with
  | nil => exact whole
  | cons d rest => exact apart

/-- Behind a part that is not empty, what stands in front of it does not matter. -/
theorem cutsBreak_append_iff (before part after : Text) (filled : part ≠ []) :
    CutsBreak (before ++ part) after ↔ CutsBreak part after := by
  rw [CutsBreak, CutsBreak, List.getLast?_append_of_ne_nil _ filled]

/-- The numeric test for an offset inside a break is the test for a cut there. -/
theorem splitsBreak_append_iff (before after : Text) :
    (before ++ after).splitsBreak before.length = true ↔ CutsBreak before after := by
  rw [splitsBreak, CutsBreak, Bool.and_eq_true, Bool.and_eq_true, bne_iff_ne, beq_iff_eq,
    beq_iff_eq, List.getElem?_append_right (Nat.le_refl _), Nat.sub_self, ← List.head?_eq_getElem?]
  cases before using List.reverseRecOn with
  | nil => simp
  | append_singleton front last => simp

/-- Texts are taken apart like the cursor passes them: a whole break at a time, or one character
that no line feed has to go with. -/
@[elab_as_elim]
theorem breakInduction {motive : Text → Prop} (nil : motive [])
    (pair : ∀ rest, motive rest → motive ('\r' :: '\n' :: rest))
    (char : ∀ c rest, ¬ CutsBreak [c] rest → motive rest → motive (c :: rest)) (text : Text) :
    motive text := by
  match text with
  | [] => exact nil
  | [c] => exact char c [] (by simp [CutsBreak]) nil
  | c :: d :: rest =>
    by_cases cut : CutsBreak [c] (d :: rest)
    · obtain ⟨isReturn, isFeed⟩ := (cutsBreak_singleton_iff c (d :: rest)).mp cut
      rw [isReturn, Option.some.inj isFeed]
      exact pair rest (breakInduction nil pair char rest)
    · exact char c (d :: rest) cut (breakInduction nil pair char (d :: rest))

end Text

open Text (CutsBreak)

namespace Position

/-! ### Moving on -/

/-- The position that lies as far behind `base` as `way` lies behind the origin. -/
def advance (base way : Position) : Position :=
  if way.line = 0 then ⟨base.line, base.column + way.column⟩ else ⟨base.line + way.line, way.column⟩

theorem advance_origin (base : Position) : base.advance origin = base := rfl

theorem advance_assoc (base first second : Position) :
    (base.advance first).advance second = base.advance (first.advance second) := by
  obtain ⟨line, column⟩ := second
  cases line with
  | zero =>
    by_cases same : first.line = 0
    · simp [advance, same, Nat.add_assoc]
    · simp [advance, same]
  | succ line =>
    by_cases same : first.line = 0
    · simp [advance, same]
    · simp [advance, same, Nat.add_assoc]

/-- Behind a first break, a position is as far as before on the next line. -/
theorem nextLine_origin_advance (position : Position) :
    origin.nextLine.advance position = ⟨position.line + 1, position.column⟩ := by
  by_cases same : position.line = 0
  · simp [advance, same, nextLine, origin]
  · simp [advance, same, nextLine, origin, Nat.add_comm]

theorem nextLine_eq_advance (position : Position) :
    position.nextLine = position.advance origin.nextLine := rfl

theorem nextColumn_eq_advance (position : Position) :
    position.nextColumn = position.advance origin.nextColumn := rfl

/-! ### Passing a text -/

theorem past_pair (position : Position) (rest : Text) :
    position.past ('\r' :: '\n' :: rest) = position.nextLine.past rest := by
  rw [past]

theorem past_cons (position : Position) (c : Char) (rest : Text) (apart : ¬ CutsBreak [c] rest) :
    position.past (c :: rest) =
      (if c = '\r' ∨ c = '\n' then position.nextLine else position.nextColumn).past rest := by
  rw [past]
  rintro tail rfl rfl
  exact apart ⟨rfl, rfl⟩

/-- Passing two texts one after the other is passing them together, unless a break lies across. -/
theorem past_append (position : Position) (before after : Text)
    (whole : ¬ CutsBreak before after) :
    position.past (before ++ after) = (position.past before).past after := by
  induction before using Text.breakInduction generalizing position with
  | nil => rw [past, List.nil_append]
  | pair rest inductionHypothesis =>
    rw [List.cons_append, List.cons_append, past_pair, past_pair,
      inductionHypothesis _ fun cut => whole ((cut.cons _).cons _)]
  | char c rest apart inductionHypothesis =>
    have apartWhole := Text.not_cutsBreak_append apart whole
    rw [List.cons_append, past_cons _ _ _ apartWhole, past_cons _ _ _ apart,
      inductionHypothesis _ fun cut => whole (cut.cons _)]

/-- What is passed moves any position on by the same way. -/
theorem past_eq_advance (position : Position) (text : Text) :
    position.past text = position.advance (origin.past text) := by
  induction text using Text.breakInduction generalizing position with
  | nil => rw [past, past, advance_origin]
  | pair rest inductionHypothesis =>
    rw [past_pair, past_pair, inductionHypothesis, inductionHypothesis origin.nextLine,
      nextLine_eq_advance, advance_assoc]
  | char c rest apart inductionHypothesis =>
    rw [past_cons _ _ _ apart, past_cons _ _ _ apart]
    split
    · rw [inductionHypothesis, inductionHypothesis origin.nextLine, nextLine_eq_advance,
        advance_assoc]
    · rw [inductionHypothesis, inductionHypothesis origin.nextColumn, nextColumn_eq_advance,
        advance_assoc]

/-! ### Order -/

theorem lt_iff (first second : Position) :
    first < second ↔
      first.line < second.line ∨ first.line = second.line ∧ first.column < second.column := Iff.rfl

theorem le_iff (first second : Position) :
    first ≤ second ↔
      first.line < second.line ∨ first.line = second.line ∧ first.column ≤ second.column := Iff.rfl

theorem le_refl (position : Position) : position ≤ position := Or.inr ⟨rfl, Nat.le_refl _⟩

theorem lt_irrefl (position : Position) : ¬ position < position := by
  rw [lt_iff]
  omega

theorem le_of_lt {first second : Position} (before : first < second) : first ≤ second := by
  rw [lt_iff] at before
  rw [le_iff]
  omega

theorem lt_of_lt_of_le {first second third : Position} (before : first < second)
    (upTo : second ≤ third) : first < third := by
  rw [lt_iff] at before ⊢
  rw [le_iff] at upTo
  omega

theorem lt_nextLine (position : Position) : position < position.nextLine :=
  Or.inl (Nat.lt_succ_self _)

theorem lt_nextColumn (position : Position) : position < position.nextColumn :=
  Or.inr ⟨rfl, Nat.lt_succ_self _⟩

/-- Passing a text never moves back. -/
theorem le_past (position : Position) (text : Text) : position ≤ position.past text := by
  induction text using Text.breakInduction generalizing position with
  | nil => exact le_refl position
  | pair rest inductionHypothesis =>
    rw [past_pair]
    exact le_of_lt (lt_of_lt_of_le position.lt_nextLine (inductionHypothesis _))
  | char c rest apart inductionHypothesis =>
    rw [past_cons _ _ _ apart]
    split
    · exact le_of_lt (lt_of_lt_of_le position.lt_nextLine (inductionHypothesis _))
    · exact le_of_lt (lt_of_lt_of_le position.lt_nextColumn (inductionHypothesis _))

/-- Passing anything at all moves on. -/
theorem lt_past (position : Position) (text : Text) (filled : text ≠ []) :
    position < position.past text := by
  cases text using Text.breakInduction with
  | nil => exact absurd rfl filled
  | pair rest =>
    rw [past_pair]
    exact lt_of_lt_of_le position.lt_nextLine (le_past _ rest)
  | char c rest apart =>
    rw [past_cons _ _ _ apart]
    split
    · exact lt_of_lt_of_le position.lt_nextLine (le_past _ rest)
    · exact lt_of_lt_of_le position.lt_nextColumn (le_past _ rest)

end Position

namespace Text

/-! ### The lines of a text -/

/-- A line with the break that ends it; the last line of a text has none. -/
structure Line where
  content : Text
  ending : Text
deriving DecidableEq, Repr

/-- How many characters the line and its break take up. -/
def Line.size (line : Line) : Nat := line.content.length + line.ending.length

/-- The line with one more character in front. -/
def Line.cons (c : Char) (line : Line) : Line := { line with content := c :: line.content }

/-- The lines of a text. A carriage return and the line feed behind it end a line together, and each
of the two ends one on its own. -/
def lines : Text → List Line
  | [] => [⟨[], []⟩]
  | '\r' :: '\n' :: rest => ⟨[], ['\r', '\n']⟩ :: lines rest
  | c :: rest =>
    if c = '\r' ∨ c = '\n' then ⟨[], [c]⟩ :: lines rest else (lines rest).modifyHead (Line.cons c)

/-- The offset at which a line starts. -/
def lineStart (text : Text) (line : Nat) : Nat :=
  (text.lines.take line).foldr (fun line behind => line.size + behind) 0

theorem lines_pair (rest : Text) :
    lines ('\r' :: '\n' :: rest) = ⟨[], ['\r', '\n']⟩ :: lines rest := by
  rw [lines]

theorem lines_cons (c : Char) (rest : Text) (apart : ¬ CutsBreak [c] rest) :
    lines (c :: rest) =
      if c = '\r' ∨ c = '\n' then ⟨[], [c]⟩ :: lines rest
      else (lines rest).modifyHead (Line.cons c) := by
  rw [lines]
  rintro tail rfl rfl
  exact apart ⟨rfl, rfl⟩

theorem lines_ne_nil (text : Text) : lines text ≠ [] := by
  induction text using breakInduction with
  | nil => simp [lines]
  | pair rest => simp [lines_pair]
  | char c rest apart inductionHypothesis =>
    rw [lines_cons _ _ apart]
    split
    · exact List.cons_ne_nil _ _
    · simpa using inductionHypothesis

end Text

namespace Position

/-! ### From a position to its offset -/

/-- The offset that a position stands for: its column, counted from the start of its line. -/
def offsetIn (position : Position) (text : Text) : Option Nat :=
  if position.line < text.lines.length then some (text.lineStart position.line + position.column)
  else none

/-- Behind a break, the offset counts from the start of the next line. -/
theorem offsetIn_nextLine_advance (position : Position) (ending rest text : Text)
    (broken : text.lines = ⟨[], ending⟩ :: rest.lines) :
    (origin.nextLine.advance position).offsetIn text =
      (position.offsetIn rest).map (ending.length + ·) := by
  rw [nextLine_origin_advance, offsetIn, offsetIn, Text.lineStart, Text.lineStart, broken,
    List.length_cons]
  by_cases inside : position.line < rest.lines.length
  · rw [if_pos inside, if_pos (Nat.succ_lt_succ inside)]
    simp [Text.Line.size, Nat.add_assoc]
  · rw [if_neg inside, if_neg (fun below => inside (Nat.lt_of_succ_lt_succ below)), Option.map_none]

/-- Behind a character that breaks nothing, the offset is one more. -/
theorem offsetIn_nextColumn_advance (position : Position) (c : Char) (rest text : Text)
    (plain : text.lines = rest.lines.modifyHead (Text.Line.cons c)) :
    (origin.nextColumn.advance position).offsetIn text = (position.offsetIn rest).map (1 + ·) := by
  obtain ⟨first, others, split⟩ := List.exists_cons_of_ne_nil rest.lines_ne_nil
  rw [split, List.modifyHead_cons] at plain
  obtain ⟨line, column⟩ := position
  rw [offsetIn, offsetIn, Text.lineStart, Text.lineStart, plain, split]
  cases line with
  | zero => simp [advance, nextColumn, origin]
  | succ line =>
    simp only [advance, nextColumn, origin, Nat.succ_ne_zero, if_false, Nat.zero_add,
      List.length_cons, List.take_succ_cons, List.foldr_cons]
    split
    · simp [Text.Line.size, Text.Line.cons]
      omega
    · rfl

/-- Where a text is cut without cutting a break, the position of the cut stands for its offset. -/
theorem offsetIn_past (before after : Text) (whole : ¬ CutsBreak before after) :
    (origin.past before).offsetIn (before ++ after) = some before.length := by
  induction before using Text.breakInduction with
  | nil =>
    have filled : origin.line < after.lines.length := List.length_pos_iff.mpr after.lines_ne_nil
    rw [past, offsetIn, List.nil_append, if_pos filled]
    rfl
  | pair rest inductionHypothesis =>
    have tail := inductionHypothesis fun cut => whole ((cut.cons _).cons _)
    rw [past_pair, past_eq_advance, List.cons_append, List.cons_append,
      offsetIn_nextLine_advance _ _ _ _ (Text.lines_pair _), tail, Option.map_some]
    simp only [List.length_cons, List.length_nil, Option.some.injEq]
    omega
  | char c rest apart inductionHypothesis =>
    have tail := inductionHypothesis fun cut => whole (cut.cons _)
    have apartWhole := Text.not_cutsBreak_append apart whole
    have table := Text.lines_cons _ _ apartWhole
    rw [past_cons _ _ _ apart, List.cons_append]
    by_cases broken : c = '\r' ∨ c = '\n'
    · rw [if_pos broken] at table ⊢
      rw [past_eq_advance, offsetIn_nextLine_advance _ _ _ _ table, tail]
      simp [Nat.add_comm]
    · rw [if_neg broken] at table ⊢
      rw [past_eq_advance, offsetIn_nextColumn_advance _ _ _ _ table, tail]
      simp [Nat.add_comm]

end Position

namespace Text

/-! ### Offsets that no break lies across -/

theorem cutsBreak_take_drop_iff (text : Text) (offset : Nat) (inside : offset ≤ text.length) :
    CutsBreak (text.take offset) (text.drop offset) ↔ text.splitsBreak offset = true := by
  rw [← splitsBreak_append_iff, List.take_append_drop, List.length_take_of_le inside]

/-- The position of an offset that lies in the text. -/
def positionOf (text : Text) (offset : Nat) : Position :=
  Position.origin.past (text.take (text.settle offset))

theorem positionAt_eq (text : Text) (offset : Nat) (inside : offset ≤ text.length) :
    text.positionAt offset = .ok (text.positionOf offset) := by
  have bounded : ¬ ((offset : Int) < 0 ∨ (text.length : Int) < offset) := by omega
  rw [positionAt, if_neg bounded, Int.toNat_natCast, Position.pastFirst_eq_past_take, positionOf]

theorem positionOf_eq (text : Text) (offset : Nat) (whole : text.splitsBreak offset = false) :
    text.positionOf offset = Position.origin.past (text.take offset) := by
  rw [positionOf, settle, whole]
  rfl

theorem positionOf_append (before after : Text) (whole : ¬ CutsBreak before after) :
    (before ++ after).positionOf before.length = Position.origin.past before := by
  have unsplit : (before ++ after).splitsBreak before.length = false :=
    Bool.eq_false_iff.mpr fun split => whole ((splitsBreak_append_iff before after).mp split)
  rw [positionOf_eq _ _ unsplit, List.take_left]

/-- More text behind an offset does not move its position, unless a break comes to lie across. -/
theorem positionOf_append_left {before after : Text} {offset : Nat}
    (inside : offset ≤ before.length) (whole : before.splitsBreak offset = false)
    (wholeThere : (before ++ after).splitsBreak offset = false) :
    (before ++ after).positionOf offset = before.positionOf offset := by
  rw [positionOf_eq _ _ whole, positionOf_eq _ _ wholeThere, List.take_append_of_le_length inside]

/-- Where no break lies across, the position stands for the offset that it came from. -/
theorem offsetIn_positionOf (text : Text) (offset : Nat) (inside : offset ≤ text.length)
    (whole : text.splitsBreak offset = false) :
    (text.positionOf offset).offsetIn text = some offset := by
  have uncut : ¬ CutsBreak (text.take offset) (text.drop offset) := by
    rw [cutsBreak_take_drop_iff _ _ inside, whole]
    exact Bool.false_ne_true
  have decoded := Position.offsetIn_past _ _ uncut
  rwa [List.take_append_drop, List.length_take_of_le inside, ← positionOf_eq _ _ whole] at decoded

/-- Further on in a text the position is further on too. -/
theorem positionOf_lt (text : Text) (first second : Nat) (before : first < second)
    (inside : second ≤ text.length) (firstWhole : text.splitsBreak first = false)
    (secondWhole : text.splitsBreak second = false) :
    text.positionOf first < text.positionOf second := by
  have pieces : text.take second = text.take first ++ (text.drop first).take (second - first) := by
    rw [← List.take_add, Nat.add_sub_cancel' (Nat.le_of_lt before)]
  have filled : (text.drop first).take (second - first) ≠ [] := by
    rw [← List.length_pos_iff, List.length_take, List.length_drop]
    omega
  have uncut : ¬ CutsBreak (text.take first) ((text.drop first).take (second - first)) := by
    rintro ⟨isReturn, isFeed⟩
    have cut : CutsBreak (text.take first) (text.drop first) := by
      refine ⟨isReturn, ?_⟩
      rwa [List.head?_take, if_neg (by omega)] at isFeed
    rw [cutsBreak_take_drop_iff _ _ (by omega), firstWhole] at cut
    exact Bool.false_ne_true cut
  rw [positionOf_eq _ _ firstWhole, positionOf_eq _ _ secondWhole, pieces,
    Position.past_append _ _ _ uncut]
  exact Position.lt_past _ _ filled

theorem positionOf_le (text : Text) (first second : Nat) (upTo : first ≤ second)
    (inside : second ≤ text.length) (firstWhole : text.splitsBreak first = false)
    (secondWhole : text.splitsBreak second = false) :
    text.positionOf first ≤ text.positionOf second := by
  rcases Nat.eq_or_lt_of_le upTo with same | before
  · rw [same]
    exact Position.le_refl _
  · exact Position.le_of_lt (positionOf_lt text first second before inside firstWhole secondWhole)

end Text

namespace Span

/-- The span lies in the text, and neither of its ends lies inside a break. -/
structure Fits (span : Span) (text : Text) : Prop where
  inside : span.stop ≤ text.length
  startWhole : text.splitsBreak span.start = false
  stopWhole : text.splitsBreak span.stop = false

/-- A piece of a text that starts with no line feed and ends with no carriage return fits. -/
theorem fits_ofLength (before piece after : Text) (filled : piece ≠ [])
    (start : piece.head? ≠ some '\n') (stop : piece.getLast? ≠ some '\r') :
    (ofLength before.length piece.length).Fits (before ++ (piece ++ after)) := by
  refine ⟨?_, ?_, ?_⟩
  · simp [ofLength]
  · refine Bool.eq_false_iff.mpr fun split => start ?_
    have cut := (Text.splitsBreak_append_iff before (piece ++ after)).mp split
    rw [← List.head?_append_of_ne_nil piece filled]
    exact cut.2
  · refine Bool.eq_false_iff.mpr fun split => stop ?_
    have cut := (Text.splitsBreak_append_iff (before ++ piece) after).mp
      (by rw [List.append_assoc, List.length_append]; exact split)
    exact ((Text.cutsBreak_append_iff _ _ _ filled).mp cut).1

theorem fits_empty (text : Text) : (empty 0).Fits text :=
  ⟨Nat.zero_le _, rfl, rfl⟩

theorem slice_ofLength (before piece after : Text) :
    (ofLength before.length piece.length).slice (before ++ (piece ++ after)) = piece := by
  rw [slice, length_ofLength]
  simp [ofLength]

theorem Fits.startInside {span : Span} {text : Text} (fits : span.Fits text) :
    span.start ≤ text.length :=
  Nat.le_trans span.ordered fits.inside

/-- A span that lies in the text has positions, those of its two ends. -/
theorem positionsIn_eq (span : Span) (text : Text) (inside : span.stop ≤ text.length) :
    span.positionsIn text = .ok (text.positionOf span.start, text.positionOf span.stop) := by
  have length : ¬ ((span.length : Int) < 0) := by omega
  have stop : (span.start : Int) + span.length = (span.stop : Nat) := by
    exact_mod_cast span.start_add_length
  rw [positionsIn, Text.positionsOf, if_neg length,
    Text.positionAt_eq _ _ (Nat.le_trans span.ordered inside), stop,
    Text.positionAt_eq _ _ inside]
  rfl

end Span

end IgniterLint
