/-
This file compares the positions of two offsets of one text. Each of the two is found by a walk of
its own, and each offset that stands inside a break is first moved back to the front of it. Moving
back keeps the order of offsets, and it brings together only two that stand on either side of the
carriage return of a pair. Between offsets that are not inside a break, the later position is the
further one. So positions keep the order of offsets, and nothing else than such a carriage return
lies between two offsets of the same position.
-/

import IgniterLint.Proofs.Except
import IgniterLint.Proofs.Text.LineTable

namespace IgniterLint

namespace Text

/-! ### Moving off a break -/

/-- A carriage return stands at the offset, and its line feed behind it. -/
def PairAt (text : Text) (offset : Nat) : Prop :=
  text[offset]? = some '\r' ∧ text[offset + 1]? = some '\n'

theorem splitsBreak_zero (text : Text) : text.splitsBreak 0 = false := rfl

theorem splitsBreak_succ_iff (text : Text) (offset : Nat) :
    text.splitsBreak (offset + 1) = true ↔ text.PairAt offset := by
  simp [splitsBreak, PairAt]

/-- In front of a pair no other one ends. -/
theorem PairAt.splitsBreak_eq_false {text : Text} {offset : Nat} (pair : text.PairAt offset) :
    text.splitsBreak offset = false := by
  cases offset with
  | zero => exact text.splitsBreak_zero
  | succ offset =>
    refine Bool.eq_false_iff.mpr fun split => ?_
    have isFeed := ((text.splitsBreak_succ_iff offset).mp split).2
    rw [pair.1] at isFeed
    exact absurd isFeed (by decide)

/-- An offset stays where it is, or it stands behind the carriage return of a pair and moves back
over it. -/
theorem settle_cases (text : Text) (offset : Nat) :
    text.splitsBreak offset = false ∧ text.settle offset = offset ∨
      ∃ front, offset = front + 1 ∧ text.PairAt front ∧ text.settle offset = front := by
  cases split : text.splitsBreak offset with
  | false => exact Or.inl ⟨rfl, by rw [settle, split]; rfl⟩
  | true =>
    cases offset with
    | zero => exact absurd split (by rw [splitsBreak_zero]; exact Bool.false_ne_true)
    | succ front =>
      refine Or.inr ⟨front, rfl, (text.splitsBreak_succ_iff front).mp split, ?_⟩
      rw [settle, split]
      rfl

theorem splitsBreak_settle (text : Text) (offset : Nat) :
    text.splitsBreak (text.settle offset) = false := by
  rcases text.settle_cases offset with ⟨whole, stays⟩ | ⟨front, _, pair, moves⟩
  · rw [stays]
    exact whole
  · rw [moves]
    exact pair.splitsBreak_eq_false

theorem positionOf_settle (text : Text) (offset : Nat) :
    text.positionOf (text.settle offset) = text.positionOf offset := by
  rw [positionOf_eq _ _ (text.splitsBreak_settle offset), positionOf]

theorem settle_bounds (text : Text) (offset : Nat) :
    text.settle offset ≤ offset ∧ offset ≤ text.settle offset + 1 := by
  rcases text.settle_cases offset with ⟨_, stays⟩ | ⟨front, _, _, moves⟩ <;> omega

theorem settle_le_settle (text : Text) {first second : Nat} (upTo : first ≤ second) :
    text.settle first ≤ text.settle second := by
  rcases Nat.eq_or_lt_of_le upTo with same | before
  · exact Nat.le_of_eq (congrArg _ same)
  · have firstBounds := text.settle_bounds first
    have secondBounds := text.settle_bounds second
    omega

/-- Two offsets that move to the same place are one, or a carriage return of a pair lies between. -/
theorem settle_eq_iff (text : Text) {first second : Nat} (upTo : first ≤ second) :
    text.settle first = text.settle second ↔
      first = second ∨ second = first + 1 ∧ text.PairAt first := by
  constructor
  · intro same
    refine (Nat.eq_or_lt_of_le upTo).imp_right fun before => ?_
    have bounds := text.settle_bounds first
    rcases text.settle_cases second with ⟨_, stays⟩ | ⟨front, next, pair, moves⟩
    · omega
    · obtain rfl : first = front := by omega
      exact ⟨next, pair⟩
  · rintro (rfl | ⟨rfl, pair⟩)
    · rfl
    · have stays : text.settle first = first := by
        rw [settle, pair.splitsBreak_eq_false]
        rfl
      rw [stays, settle, (text.splitsBreak_succ_iff first).mpr pair]
      rfl

/-! ### Positions of two offsets -/

variable {text : Text}

theorem positionOf_le_of_le {first second : Nat} (upTo : first ≤ second)
    (inside : second ≤ text.length) : text.positionOf first ≤ text.positionOf second := by
  rw [← positionOf_settle text first, ← positionOf_settle text second]
  exact text.positionOf_le _ _ (text.settle_le_settle upTo)
    (Nat.le_trans (text.settle_bounds second).1 inside) (text.splitsBreak_settle first)
    (text.splitsBreak_settle second)

/-- Offsets that do not move to the same place have different positions. -/
theorem positionOf_eq_iff {first second : Nat} (upTo : first ≤ second)
    (inside : second ≤ text.length) :
    text.positionOf first = text.positionOf second ↔
      first = second ∨ second = first + 1 ∧ text.PairAt first := by
  rw [← settle_eq_iff text upTo]
  constructor
  · intro same
    refine (Nat.eq_or_lt_of_le (text.settle_le_settle upTo)).resolve_right fun before => ?_
    have further := text.positionOf_lt _ _ before
      (Nat.le_trans (text.settle_bounds second).1 inside) (text.splitsBreak_settle first)
      (text.splitsBreak_settle second)
    rw [positionOf_settle, positionOf_settle, same] at further
    exact Position.lt_irrefl _ further
  · intro same
    rw [positionOf, positionOf, same]

/-! ### Offsets given as integers -/

/-- The offset stands somewhere in the text, or at its end. -/
def HasOffset (text : Text) (offset : Int) : Prop := 0 ≤ offset ∧ offset ≤ text.length

theorem HasOffset.toNat_le {offset : Int} (has : text.HasOffset offset) :
    offset.toNat ≤ text.length := by
  have bounds := has
  rw [HasOffset] at bounds
  omega

theorem positionAt_of_hasOffset {offset : Int} (has : text.HasOffset offset) :
    text.positionAt offset = .ok (text.positionOf offset.toNat) := by
  rw [← positionAt_eq _ _ has.toNat_le, Int.toNat_of_nonneg has.1]

theorem positionAt_of_not_hasOffset {offset : Int} (lacks : ¬ text.HasOffset offset) :
    text.positionAt offset = .error (.outside offset text.length) := by
  rw [positionAt, if_pos]
  rw [HasOffset] at lacks
  omega

theorem positionAt_eq_ok_iff {offset : Int} {position : Position} :
    text.positionAt offset = .ok position ↔
      text.HasOffset offset ∧ text.positionOf offset.toNat = position := by
  by_cases has : text.HasOffset offset
  · rw [positionAt_of_hasOffset has, Except.ok.injEq]
    exact (and_iff_right has).symm
  · rw [positionAt_of_not_hasOffset has]
    exact iff_of_false nofun fun found => has found.1

/-- Of two offsets with positions, the further one has the further position, and they share it only
if a carriage return of a pair is all that lies between them. -/
theorem positionAt_ordered {first second : Int} {start stop : Position}
    (startsAt : text.positionAt first = .ok start) (stopsAt : text.positionAt second = .ok stop)
    (upTo : first ≤ second) :
    start ≤ stop ∧
      (start = stop ↔ first = second ∨ second = first + 1 ∧ text.PairAt first.toNat) := by
  obtain ⟨hasFirst, rfl⟩ := positionAt_eq_ok_iff.mp startsAt
  obtain ⟨hasSecond, rfl⟩ := positionAt_eq_ok_iff.mp stopsAt
  have order : first.toNat ≤ second.toNat := Int.toNat_le_toNat upTo
  have firstCast := Int.toNat_of_nonneg hasFirst.1
  have secondCast := Int.toNat_of_nonneg hasSecond.1
  refine ⟨positionOf_le_of_le order hasSecond.toNat_le, ?_⟩
  rw [positionOf_eq_iff order hasSecond.toNat_le]
  exact or_congr (by omega) (and_congr_left' (by omega))

theorem positionAt_eq_positionAt_iff {first second : Int} {start stop : Position}
    (startsAt : text.positionAt first = .ok start) (stopsAt : text.positionAt second = .ok stop) :
    start = stop ↔ first = second ∨ second = first + 1 ∧ text.PairAt first.toNat ∨
      first = second + 1 ∧ text.PairAt second.toNat := by
  rcases Int.le_total first second with upTo | upTo
  · rw [(positionAt_ordered startsAt stopsAt upTo).2]
    have notBehind : first ≠ second + 1 := by omega
    simp [notBehind]
  · rw [eq_comm, (positionAt_ordered stopsAt startsAt upTo).2, eq_comm]
    have notBehind : second ≠ first + 1 := by omega
    simp [notBehind]

/-! ### Stretches given by offset and length -/

theorem positionsOf_of_negative (offset : Int) {length : Int} (negative : length < 0) :
    text.positionsOf offset length = .error .negativeLength := by
  rw [positionsOf, if_pos negative]

theorem positionsOf_of_nonneg (offset : Int) {length : Int} (nonneg : 0 ≤ length) :
    text.positionsOf offset length = (do
      let start ← text.positionAt offset
      let stop ← text.positionAt (offset + length)
      return (start, stop)) := by
  rw [positionsOf, if_neg (Int.not_lt.mpr nonneg)]

/-- The positions of a stretch are those of its two ends, and a negative length has none. -/
theorem positionsOf_eq_ok_iff {offset length : Int} {start stop : Position} :
    text.positionsOf offset length = .ok (start, stop) ↔
      0 ≤ length ∧ text.positionAt offset = .ok start ∧
        text.positionAt (offset + length) = .ok stop := by
  by_cases negative : length < 0
  · rw [positionsOf_of_negative offset negative]
    exact iff_of_false nofun fun found => absurd found.1 (Int.not_le.mpr negative)
  · have nonneg := Int.not_lt.mp negative
    rw [positionsOf_of_nonneg offset nonneg, and_iff_right nonneg]
    constructor
    · intro returned
      obtain ⟨_, startsAt, returned⟩ := bind_eq_ok_iff.mp returned
      obtain ⟨_, stopsAt, returned⟩ := bind_eq_ok_iff.mp returned
      obtain ⟨rfl, rfl⟩ := Prod.mk.inj (Except.ok.inj returned)
      exact ⟨startsAt, stopsAt⟩
    · rintro ⟨startsAt, stopsAt⟩
      rw [startsAt, stopsAt]
      rfl

theorem exists_positionsOf_eq_ok_iff {offset length : Int} :
    (∃ ends, text.positionsOf offset length = .ok ends) ↔
      0 ≤ length ∧ 0 ≤ offset ∧ offset + length ≤ text.length := by
  constructor
  · rintro ⟨⟨start, stop⟩, returned⟩
    obtain ⟨nonneg, startsAt, stopsAt⟩ := positionsOf_eq_ok_iff.mp returned
    exact ⟨nonneg, (positionAt_eq_ok_iff.mp startsAt).1.1, (positionAt_eq_ok_iff.mp stopsAt).1.2⟩
  · rintro ⟨nonneg, startInside, stopInside⟩
    have hasStart : text.HasOffset offset := ⟨startInside, by omega⟩
    have hasStop : text.HasOffset (offset + length) := ⟨by omega, stopInside⟩
    exact ⟨_, positionsOf_eq_ok_iff.mpr
      ⟨nonneg, positionAt_of_hasOffset hasStart, positionAt_of_hasOffset hasStop⟩⟩

/-- A stretch of a text has positions exactly when it lies in the text. Otherwise the first thing
wrong with it is reported: a negative length, then a start outside, then an end outside. Its start
is not behind its end, and both are one position only for a stretch of nothing or of the carriage
return of a pair. Along a text, positions keep the order of offsets, and two offsets share a
position only around such a carriage return. -/
theorem positionsOf_exact (text : Text) :
    (∀ offset length : Int,
      ((∃ ends, text.positionsOf offset length = .ok ends) ↔
        0 ≤ length ∧ 0 ≤ offset ∧ offset + length ≤ text.length) ∧
      (length < 0 → text.positionsOf offset length = .error .negativeLength) ∧
      (0 ≤ length → ¬ text.HasOffset offset →
        text.positionsOf offset length = .error (.outside offset text.length)) ∧
      (0 ≤ length → text.HasOffset offset → ¬ text.HasOffset (offset + length) →
        text.positionsOf offset length = .error (.outside (offset + length) text.length)) ∧
      ∀ start stop, text.positionsOf offset length = .ok (start, stop) →
        start ≤ stop ∧ (start = stop ↔ length = 0 ∨ length = 1 ∧ text.PairAt offset.toNat)) ∧
    ∀ (first second : Int) (start stop : Position),
      text.positionAt first = .ok start → text.positionAt second = .ok stop →
        (first ≤ second → start ≤ stop) ∧
        (start = stop ↔ first = second ∨ second = first + 1 ∧ text.PairAt first.toNat ∨
          first = second + 1 ∧ text.PairAt second.toNat) := by
  refine ⟨fun offset length =>
    ⟨exists_positionsOf_eq_ok_iff, positionsOf_of_negative offset, ?_, ?_, ?_⟩, ?_⟩
  · intro nonneg lacksStart
    rw [positionsOf_of_nonneg offset nonneg, positionAt_of_not_hasOffset lacksStart]
    rfl
  · intro nonneg hasStart lacksStop
    rw [positionsOf_of_nonneg offset nonneg, positionAt_of_hasOffset hasStart,
      positionAt_of_not_hasOffset lacksStop]
    rfl
  · intro start stop returned
    obtain ⟨nonneg, startsAt, stopsAt⟩ := positionsOf_eq_ok_iff.mp returned
    obtain ⟨ordered, same⟩ := positionAt_ordered startsAt stopsAt (by omega)
    exact ⟨ordered, same.trans (or_congr (by omega) (and_congr_left' (by omega)))⟩
  · intro first second start stop startsAt stopsAt
    exact ⟨fun upTo => (positionAt_ordered startsAt stopsAt upTo).1,
      positionAt_eq_positionAt_iff startsAt stopsAt⟩

-- The carriage return of a pair takes up no room on its line; the pair ends the line.
example : positionsOf "a\r\nb".toList 1 1 = .ok (⟨0, 1⟩, ⟨0, 1⟩) := by decide
example : positionsOf "a\r\nb".toList 1 2 = .ok (⟨0, 1⟩, ⟨1, 0⟩) := by decide

end Text

end IgniterLint
