/-
This file holds sizes and spans. A size is an offset or a length and is never negative; a span is
the half-open stretch of a text between two offsets, the first not after the second. Both are
built from arbitrary integers by a check that says what is wrong with them, so that every span in
the library is a real one.
-/

import IgniterLint.Text.Numeral

namespace IgniterLint

/-- What keeps integers from being a size or a span. -/
inductive SpanFault where
  /-- a size below zero -/
  | negativeSize
  /-- an end of a span below zero -/
  | negativeBound
  /-- a span that starts after it stops -/
  | startAfterStop
deriving DecidableEq, Repr

namespace SpanFault

/-- The wording of each fault. -/
def message : SpanFault → Text
  | negativeSize => "TextSize cannot be negative".toList
  | negativeBound => "TextRange positions cannot be negative".toList
  | startAfterStop => "TextRange invariant violated: start > end".toList

end SpanFault

/-- An offset into a text, or a length of one. -/
structure Size where
  val : Nat
deriving DecidableEq, Repr

namespace Size

/-- Only an integer that is not negative is a size. -/
def ofInt (n : Int) : Except SpanFault Size :=
  if n < 0 then .error .negativeSize else .ok ⟨n.toNat⟩

/-- The written form, for listings. -/
def render (size : Size) : Except NumeralFault Text := do
  let numeral ← Text.numeral size.val
  return "TextSize(".toList ++ numeral ++ ")".toList

instance : LT Size := ⟨fun a b => a.val < b.val⟩
instance : LE Size := ⟨fun a b => a.val ≤ b.val⟩
instance (a b : Size) : Decidable (a < b) := inferInstanceAs (Decidable (a.val < b.val))
instance (a b : Size) : Decidable (a ≤ b) := inferInstanceAs (Decidable (a.val ≤ b.val))

end Size

/-- The stretch of a text from offset `start` up to, not including, offset `stop`. -/
structure Span where
  start : Nat
  stop : Nat
  ordered : start ≤ stop
deriving DecidableEq, Repr

namespace Span

/-- Two integers bound a span when neither is negative and they stand in order. -/
def ofInts (start stop : Int) : Except SpanFault Span :=
  if start < 0 ∨ stop < 0 then .error .negativeBound
  else if reversed : stop < start then .error .startAfterStop
  else .ok ⟨start.toNat, stop.toNat, by omega⟩

/-- The span of the given length that starts at the offset. -/
def ofLength (offset length : Nat) : Span := ⟨offset, offset + length, Nat.le_add_right _ _⟩

/-- The span at the offset that covers nothing. -/
def empty (offset : Nat) : Span := ⟨offset, offset, Nat.le_refl _⟩

/-- How many characters the span covers. -/
def length (span : Span) : Nat := span.stop - span.start

/-- Whether the span covers nothing. -/
def isEmpty (span : Span) : Bool := span.start == span.stop

/-- The characters that the span covers; a span that reaches past the end covers what is there. -/
def slice (span : Span) (text : Text) : Text := (text.drop span.start).take span.length

/-- The written form, for listings. -/
def render (span : Span) : Except NumeralFault Text := do
  let start ← Text.numeral span.start
  let stop ← Text.numeral span.stop
  return "TextRange(".toList ++ start ++ ", ".toList ++ stop ++ ")".toList

/-- Spans are ordered by where they start, then by where they stop. -/
instance : LT Span := ⟨fun a b => a.start < b.start ∨ (a.start = b.start ∧ a.stop < b.stop)⟩
instance : LE Span := ⟨fun a b => a.start < b.start ∨ (a.start = b.start ∧ a.stop ≤ b.stop)⟩
instance (a b : Span) : Decidable (a < b) :=
  inferInstanceAs (Decidable (a.start < b.start ∨ (a.start = b.start ∧ a.stop < b.stop)))
instance (a b : Span) : Decidable (a ≤ b) :=
  inferInstanceAs (Decidable (a.start < b.start ∨ (a.start = b.start ∧ a.stop ≤ b.stop)))

@[simp] theorem length_ofLength (offset length : Nat) : (ofLength offset length).length = length :=
  Nat.add_sub_cancel_left _ _

@[simp] theorem length_empty (offset : Nat) : (empty offset).length = 0 := Nat.sub_self _

theorem start_add_length (span : Span) : span.start + span.length = span.stop :=
  Nat.add_sub_cancel' span.ordered

end Span

end IgniterLint
