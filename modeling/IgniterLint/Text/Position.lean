/-
This file turns offsets into line and column. A line ends at a carriage return, at a line feed, or
at the two together, which count as one break. The position of an offset is where a cursor stands
once it has passed the characters before it; an offset between the two halves of one break is taken
as the end of the line that the break closes. An offset outside the text has no position.
-/

import IgniterLint.Text.Span

namespace IgniterLint

/-- A place in a text, both counts starting at zero. -/
structure Position where
  line : Nat
  column : Nat
deriving DecidableEq, Repr

/-- Why there is no position, or no pair of positions. -/
inductive PositionFault where
  /-- a line or a column below zero -/
  | negativeCoordinate
  /-- a stretch of negative length -/
  | negativeLength
  /-- an offset that does not lie in a text of this length -/
  | outside (offset : Int) (length : Nat)
deriving DecidableEq, Repr

namespace PositionFault

/-- The wording of each fault. An offset that is too long to be written out is not. -/
def message : PositionFault → Text
  | negativeCoordinate => "Position line and column cannot be negative".toList
  | negativeLength => "Match length cannot be negative".toList
  | outside offset length =>
    match Text.numeral offset with
    | .ok numeral =>
      "Offset ".toList ++ numeral ++ " is outside text of length ".toList ++ Text.ofNat length
    | .error fault => fault.message

end PositionFault

namespace Position

/-- The position before the first character. -/
def origin : Position := ⟨0, 0⟩

/-- Line and column given as integers, neither of which may be negative. -/
def ofInts (line column : Int) : Except PositionFault Position :=
  if line < 0 ∨ column < 0 then .error .negativeCoordinate
  else .ok ⟨line.toNat, column.toNat⟩

/-- The form shown to people, where both counts start at one. -/
def display (position : Position) : Text :=
  Text.ofNat (position.line + 1) ++ ":".toList ++ Text.ofNat (position.column + 1)

/-- Whether both counts of the form shown to people are short enough to be written out. -/
def isShort (position : Position) : Bool :=
  Text.isShort (position.line + 1) && Text.isShort (position.column + 1)

/-- The written form, for listings. -/
def render (position : Position) : Except NumeralFault Text := do
  let line ← Text.numeral position.line
  let column ← Text.numeral position.column
  return "Position(line=".toList ++ line ++ ", column=".toList ++ column ++ ")".toList

/-- Positions are ordered by line, then by column. -/
instance : LT Position := ⟨fun a b => a.line < b.line ∨ (a.line = b.line ∧ a.column < b.column)⟩
instance : LE Position := ⟨fun a b => a.line < b.line ∨ (a.line = b.line ∧ a.column ≤ b.column)⟩
instance (a b : Position) : Decidable (a < b) :=
  inferInstanceAs (Decidable (a.line < b.line ∨ (a.line = b.line ∧ a.column < b.column)))
instance (a b : Position) : Decidable (a ≤ b) :=
  inferInstanceAs (Decidable (a.line < b.line ∨ (a.line = b.line ∧ a.column ≤ b.column)))

/-- The start of the next line. -/
def nextLine (position : Position) : Position := ⟨position.line + 1, 0⟩

/-- One column further on the same line. -/
def nextColumn (position : Position) : Position := ⟨position.line, position.column + 1⟩

/-- Where the cursor stands once it has passed the text. A carriage return with a line feed right
behind it is one break, so the two are passed together. -/
def past : Position → Text → Position
  | position, [] => position
  | position, '\r' :: '\n' :: rest => past position.nextLine rest
  | position, c :: rest =>
    past (if c = '\r' ∨ c = '\n' then position.nextLine else position.nextColumn) rest

/-- Where the cursor stands once it has passed the first characters of the text, so many of them. -/
def pastFirst : Position → (count : Nat) → Text → Position
  | position, 0, _ => position
  | position, _ + 1, [] => position
  | position, count + 2, '\r' :: '\n' :: rest => pastFirst position.nextLine count rest
  | position, count + 1, c :: rest =>
    pastFirst (if c = '\r' ∨ c = '\n' then position.nextLine else position.nextColumn) count rest

/-- Passing the first characters is passing the text that they are. -/
theorem pastFirst_eq_past_take (position : Position) (count : Nat) (text : Text) :
    position.pastFirst count text = position.past (text.take count) := by
  fun_induction pastFirst position count text with
  | case1 position text => simp [past]
  | case2 position count => simp [past]
  | case3 position count rest inductionHypothesis =>
    simpa [past] using inductionHypothesis
  | case4 position count c rest notBreak inductionHypothesis =>
    rw [inductionHypothesis, List.take_succ_cons, past]
    intro tail isReturn startsFeed
    cases count with
    | zero => simp at startsFeed
    | succ count =>
      cases rest with
      | nil => simp at startsFeed
      | cons d rest =>
        rw [List.take_succ_cons, List.cons.injEq] at startsFeed
        exact notBreak count rest rfl isReturn (by rw [startsFeed.1])

end Position

namespace Text

/-- Whether the offset stands between a carriage return and the line feed that follows it. -/
def splitsBreak (text : Text) (offset : Nat) : Bool :=
  offset != 0 && text[offset - 1]? == some '\r' && text[offset]? == some '\n'

/-- The offset that carries the position: an offset inside a break moves back to its front. -/
def settle (text : Text) (offset : Nat) : Nat :=
  if text.splitsBreak offset then offset - 1 else offset

/-- The position of an offset. The end of the text has one too. -/
def positionAt (text : Text) (offset : Int) : Except PositionFault Position :=
  if offset < 0 ∨ text.length < offset then .error (.outside offset text.length)
  else .ok (Position.origin.pastFirst (text.settle offset.toNat) text)

/-- The positions at which a stretch of the text starts and ends. -/
def positionsOf (text : Text) (offset length : Int) : Except PositionFault (Position × Position) :=
  if length < 0 then .error .negativeLength
  else do
    let start ← text.positionAt offset
    let stop ← text.positionAt (offset + length)
    return (start, stop)

end Text

/-- The positions of the ends of a span. -/
def Span.positionsIn (span : Span) (text : Text) : Except PositionFault (Position × Position) :=
  text.positionsOf span.start span.length

end IgniterLint
