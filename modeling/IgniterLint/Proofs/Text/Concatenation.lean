/-
This file puts positions together from those of two parts of a text. An offset in the second part
lies as far behind the end of the first part as it lies behind the start of the second one: on the
same line its column counts on, and behind a break its line does. This is so unless the cut between
the parts goes through a break. The first part then ends a line with its carriage return, and the
second ends one more with its line feed, where the whole text has one break only; so every position
put together is one line too far.
-/

import IgniterLint.Proofs.Text.PositionOrder

namespace IgniterLint

open Text (CutsBreak)

theorem Position.line_advance (base way : Position) :
    (base.advance way).line = base.line + way.line := by
  rw [advance]
  split
  · next same => rw [same, Nat.add_zero]
  · rfl

namespace Text

theorem positionOf_length (text : Text) :
    text.positionOf text.length = Position.origin.past text := by
  have ending := positionOf_append text [] (by simp [CutsBreak])
  rwa [List.append_nil] at ending

/-! ### Offsets in the second part -/

theorem splitsBreak_append_add (first second : Text) (offset : Nat) :
    (first ++ second).splitsBreak (first.length + (offset + 1)) =
      second.splitsBreak (offset + 1) := by
  rw [Bool.eq_iff_iff, ← Nat.add_assoc, splitsBreak_succ_iff, splitsBreak_succ_iff, PairAt, PairAt,
    Nat.add_assoc, List.getElem?_append_right (Nat.le_add_right _ _),
    List.getElem?_append_right (Nat.le_add_right _ _), Nat.add_sub_cancel_left,
    Nat.add_sub_cancel_left]

/-- Unless a break lies across the cut, an offset in the second part moves as it does there. -/
theorem settle_append_add {first second : Text} (whole : ¬ CutsBreak first second) (offset : Nat) :
    (first ++ second).settle (first.length + offset) = first.length + second.settle offset := by
  cases offset with
  | zero =>
    have unsplit : (first ++ second).splitsBreak first.length = false :=
      Bool.eq_false_iff.mpr fun split => whole ((splitsBreak_append_iff first second).mp split)
    rw [settle, settle, Nat.add_zero, unsplit, splitsBreak_zero]
    rfl
  | succ offset =>
    rw [settle, settle, splitsBreak_append_add]
    split <;> rfl

/-- Unless a break lies across the cut, a position in the second part lies as far behind the end of
the first one as it lies behind the start of the second. -/
theorem positionOf_append_add (first second : Text) (whole : ¬ CutsBreak first second)
    (offset : Nat) :
    (first ++ second).positionOf (first.length + offset) =
      (Position.origin.past first).advance (second.positionOf offset) := by
  have uncut : ¬ CutsBreak first (second.take (second.settle offset)) := by
    rintro ⟨isReturn, isFeed⟩
    rw [List.head?_take] at isFeed
    split at isFeed
    · exact nomatch isFeed
    · exact whole ⟨isReturn, isFeed⟩
  rw [positionOf, settle_append_add whole, List.take_length_add_append,
    Position.past_append _ _ _ uncut, Position.past_eq_advance]
  rfl

/-! ### A cut through a break -/

/-- A carriage return in front of a line feed moves no position. -/
theorem positionOf_pair_succ (rest : Text) (offset : Nat) :
    positionOf ('\r' :: '\n' :: rest) (offset + 1) = positionOf ('\n' :: rest) offset := by
  cases offset with
  | zero => rfl
  | succ offset =>
    -- Behind the line feed, both texts have passed one break.
    have behindPair := positionOf_append_add ['\r', '\n'] rest (by simp [CutsBreak]) offset
    have behindFeed := positionOf_append_add ['\n'] rest (by simp [CutsBreak]) offset
    rw [List.length_cons, List.length_singleton, Nat.add_comm] at behindPair
    rw [List.length_singleton, Nat.add_comm] at behindFeed
    exact behindPair.trans behindFeed.symm

/-- Where a break lies across the cut, positions put together are one line too far. -/
theorem line_advance_of_cutsBreak {first second : Text} (cut : CutsBreak first second)
    (offset : Nat) :
    ((Position.origin.past first).advance (second.positionOf offset)).line =
      ((first ++ second).positionOf (first.length + offset)).line + 1 := by
  obtain ⟨front, rfl⟩ := List.getLast?_eq_some_iff.mp cut.1
  obtain ⟨rest, rfl⟩ := List.head?_eq_some_iff.mp cut.2
  have aside (behind : Text) : ¬ CutsBreak front ('\r' :: behind) := by simp [CutsBreak]
  have joined : positionOf (front ++ ['\r'] ++ '\n' :: rest)
      ((front ++ ['\r']).length + offset) =
        (Position.origin.past front).advance (positionOf ('\n' :: rest) offset) := by
    rw [← positionOf_pair_succ, ← positionOf_append_add _ _ (aside _), List.append_assoc,
      List.length_append, Nat.add_assoc, Nat.add_comm offset 1]
    rfl
  have ended : Position.origin.past (front ++ ['\r']) = (Position.origin.past front).nextLine :=
    Position.past_append _ _ _ (aside [])
  rw [joined, ended, Position.line_advance, Position.line_advance, Position.nextLine,
    Nat.add_right_comm]

/-! ### Putting positions together -/

/-- Both parts of a text have their positions, and the position of an offset in the second part is
put together from the end of the first one and its own place in the second: on the same line the
columns add up, and on a later one the lines do. This holds exactly if the first part does not end
in a carriage return or the second does not start with a line feed. -/
theorem positionAt_append_iff (first second : Text) (offset : Int) (nonneg : 0 ≤ offset)
    (inside : offset ≤ second.length) :
    ∃ base way, first.positionAt first.length = .ok base ∧ second.positionAt offset = .ok way ∧
      ((first ++ second).positionAt (first.length + offset) =
          .ok (if way.line = 0 then ⟨base.line, base.column + way.column⟩
            else ⟨base.line + way.line, way.column⟩) ↔
        first.getLast? ≠ some '\r' ∨ second.head? ≠ some '\n') := by
  obtain ⟨offset, rfl⟩ := Int.eq_ofNat_of_zero_le nonneg
  have short : offset ≤ second.length := Int.ofNat_le.mp inside
  have joined : (first ++ second).positionAt (first.length + offset) =
      .ok ((first ++ second).positionOf (first.length + offset)) := by
    rw [← Int.natCast_add]
    exact positionAt_eq _ _ (by rw [List.length_append]; omega)
  refine ⟨Position.origin.past first, second.positionOf offset, ?_, positionAt_eq _ _ short, ?_⟩
  · rw [positionAt_eq _ _ (Nat.le_refl _), positionOf_length]
  rw [joined, Except.ok.injEq, ← not_and_or]
  show _ = (Position.origin.past first).advance _ ↔ ¬ CutsBreak first second
  constructor
  · intro same cut
    have further := line_advance_of_cutsBreak cut offset
    rw [← same] at further
    omega
  · exact fun whole => positionOf_append_add first second whole offset

-- The offset lies inside a break of the second part, which is on the second line of the whole.
theorem positionAt_append_iff_insidePair :
    ∃ base way, positionAt "a\nbc".toList 4 = .ok base ∧ positionAt "d\r\ne".toList 2 = .ok way ∧
      positionAt "a\nbcd\r\ne".toList 6 =
        .ok (if way.line = 0 then ⟨base.line, base.column + way.column⟩
          else ⟨base.line + way.line, way.column⟩) := by
  obtain ⟨base, way, ends, lies, composed⟩ :=
    positionAt_append_iff "a\nbc".toList "d\r\ne".toList 2 (by decide) (by decide)
  exact ⟨base, way, ends, lies, composed.mpr (Or.inl (by decide))⟩

-- Each half of a break ends a line of its own part, and the two together end one.
example : positionAt "\r".toList 1 = .ok ⟨1, 0⟩ ∧ positionAt "\n".toList 1 = .ok ⟨1, 0⟩ ∧
    positionAt "\r\n".toList 2 = .ok ⟨1, 0⟩ := by decide

end Text

end IgniterLint
