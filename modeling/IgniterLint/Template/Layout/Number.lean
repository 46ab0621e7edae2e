/-
This file writes numbers in layouts. A whole number may be written to several bases, as a character,
or as if it had decimals: with a fixed number of them, by powers of ten, or the shorter of the two.
Its digits may be grouped. The numbers that templates come upon are not negative, so a sign only
shows when the layout asks for one.

A number is first taken apart into sign, base mark, digits and the rest, and then padded. Zeros that
pad a number behind its sign belong to its digits and are grouped with them.
-/

import IgniterLint.Template.Layout

namespace IgniterLint

open Reflection (Kind)

namespace Layout

/-- A number taken apart for writing. -/
structure Numeral where
  sign : Text
  /-- what tells the base -/
  mark : Text
  digits : Text
  /-- the decimals and what follows them -/
  rest : Text
deriving DecidableEq, Repr

/-- Numbers as the subject of a layout. Truth values count as numbers and keep their own kind. -/
def Subject.numbers (owner : Kind) : Subject := ⟨owner, 'd', .right⟩

/-- The sign of a number that is not negative. -/
def signOf (layout : Layout) : Text :=
  match layout.sign with
  | some '+' => ['+']
  | some ' ' => [' ']
  | _ => []

/-! ### Decimals -/

/-- A quotient rounded to the nearest whole number, and a half to the even one. -/
def roundedQuotient (n divisor : Nat) : Nat :=
  let quotient := n / divisor
  let twice := 2 * (n % divisor)
  if twice < divisor ∨ (twice = divisor ∧ quotient % 2 = 0) then quotient else quotient + 1

/-- The first digits of a number, rounded, and the power of ten of the first of them. -/
def leadingDigits (count n : Nat) : Text × Nat :=
  if n = 0 then (List.replicate count '0', 0)
  else
    let digits := Text.ofNat n
    if digits.length ≤ count then
      (digits ++ List.replicate (count - digits.length) '0', digits.length - 1)
    else
      let rounded := Text.ofNat (roundedQuotient n (Nat.pow 10 (digits.length - count)))
      if count < rounded.length then (rounded.take count, digits.length)
      else (rounded, digits.length - 1)

/-- A power of ten as it follows the digits, with two figures or more. -/
def powerOfTen (letter : Char) (power : Nat) : Text :=
  let figures := Text.ofNat power
  [letter, '+'] ++ List.replicate (2 - figures.length) '0' ++ figures

/-- Decimals behind their point. Without any, the point stands only in the alternate form. -/
def behindPoint (alternate : Bool) (decimals : Text) : Text :=
  if decimals.isEmpty && !alternate then [] else '.' :: decimals

/-- The text without the zeros at its end. -/
def withoutTrailingZeros (text : Text) : Text := (text.reverse.dropWhile (· == '0')).reverse

/-- The nearest number that fifty-three binary digits hold, up to a power of two; of two that are as
near the one whose last digit is even. Numbers with decimals are worked out to this precision. -/
def nearest (n : Nat) : Nat :=
  let unit := Nat.pow 2 (Nat.log2 n + 1 - 53)
  roundedQuotient n unit * unit

/-- A whole number with a fixed number of decimals. -/
def fixedDecimals (alternate : Bool) (precision n : Nat) : Text × Text :=
  (Text.ofNat n, behindPoint alternate (List.replicate precision '0'))

/-- A number by powers of ten: one digit, then the decimals and the power. -/
def byPowers (alternate : Bool) (letter : Char) (precision n : Nat) : Text × Text :=
  let (digits, power) := leadingDigits (precision + 1) n
  (digits.take 1, behindPoint alternate (digits.drop 1) ++ powerOfTen letter power)

/-- A number in the shorter of the two ways, to so many digits. Zeros at the end of the decimals are
left out except in the alternate form. -/
def shorter (alternate : Bool) (letter : Char) (precision n : Nat) : Text × Text :=
  let count := max precision 1
  let (digits, power) := leadingDigits count n
  let (front, ending) := if power < count then (power + 1, []) else (1, powerOfTen letter power)
  let decimals := digits.drop front
  let decimals := if alternate then decimals else withoutTrailingZeros decimals
  (digits.take front, behindPoint alternate decimals ++ ending)

/-- The largest precision of a number with decimals: thirty-one bits, all set. -/
def precisionLimit : Nat := 0x7fffffff

/-- A number taken apart by one of the ways that have decimals. Six of them count when no precision
is given. -/
def withDecimals (layout : Layout) (way : Bool → Nat → Text × Text) (ending : Text) :
    Except TemplateFault Numeral :=
  let precision := layout.precision.getD 6
  if precisionLimit < precision then .error .precisionTooLarge
  else
    let (digits, rest) := way layout.alternate precision
    .ok ⟨signOf layout, [], digits, rest ++ ending⟩

/-! ### Whole numbers -/

/-- A layout fits a whole number when nothing in it belongs to decimals. -/
def checkForWhole (layout : Layout) : Except TemplateFault Unit :=
  if layout.precision.isSome then .error .precisionRefused
  else if layout.negativeZero then .error .wholeZeroRefused
  else .ok ()

/-- A whole number to a base. The mark of the base shows in the alternate form. -/
def toBase (layout : Layout) (base : Nat) (mark : Text) (n : Nat) :
    Except TemplateFault Numeral := do
  layout.checkForWhole
  return ⟨signOf layout, if layout.alternate then mark else [], Nat.toDigits base n, []⟩

/-- A number as the character of its code. -/
def asCharacter (layout : Layout) (n : Nat) : Except TemplateFault Numeral := do
  layout.checkForWhole
  if layout.sign.isSome then throw .characterSignRefused
  if layout.alternate then throw .characterAlternateRefused
  if 0x10ffff < n then throw .noCharacter
  return ⟨[], [], [], [Char.ofNat n]⟩

/-- The numeral with capital letters. -/
def Numeral.capital (numeral : Numeral) : Numeral :=
  { numeral with
    mark := numeral.mark.map Char.toUpper
    digits := numeral.digits.map Char.toUpper }

/-- Takes a number apart as the letter of the layout says. -/
def numeral (layout : Layout) (owner : Kind) (n : Nat) : Except TemplateFault Numeral :=
  match layout.letter with
  | 'd' | 'n' => layout.toBase 10 [] n
  | 'b' => layout.toBase 2 "0b".toList n
  | 'o' => layout.toBase 8 "0o".toList n
  | 'x' => layout.toBase 16 "0x".toList n
  | 'X' => (layout.toBase 16 "0x".toList n).map Numeral.capital
  | 'c' => layout.asCharacter n
  | 'f' | 'F' => layout.withDecimals (fun alternate p => fixedDecimals alternate p (nearest n)) []
  | '%' =>
    let hundredfold := nearest (100 * nearest n)
    layout.withDecimals (fun alternate p => fixedDecimals alternate p hundredfold) ['%']
  | 'e' => layout.withDecimals (fun alternate p => byPowers alternate 'e' p (nearest n)) []
  | 'E' => layout.withDecimals (fun alternate p => byPowers alternate 'E' p (nearest n)) []
  | 'g' => layout.withDecimals (fun alternate p => shorter alternate 'e' p (nearest n)) []
  | 'G' => layout.withDecimals (fun alternate p => shorter alternate 'E' p (nearest n)) []
  | letter => .error (.unknownLetter letter owner)

/-! ### Grouping and padding -/

/-- How many digits stand between two separators. -/
def groupSize (letter : Char) : Nat := if "boxX".toList.contains letter then 4 else 3

/-- The digits with a separator in front of every full group behind it. `behind` counts the digits
that follow the first one. -/
def separatedBefore (mark : Char) (size : Nat) : (behind : Nat) → Text → Text
  | _, [] => []
  | behind, c :: rest =>
    if behind = 0 ∨ behind % size ≠ 0 then c :: separatedBefore mark size (behind - 1) rest
    else c :: mark :: separatedBefore mark size (behind - 1) rest

/-- The digits with a separator in front of every full group. -/
def separated (mark : Char) (size : Nat) (digits : Text) : Text :=
  separatedBefore mark size (digits.length - 1) digits

/-- The fewest digits that fill the width once they are grouped. -/
def digitsToFill (size width : Nat) : Nat :=
  width / (size + 1) * size + max (width % (size + 1)) 1

/-- The text with zeros in front, up to so many characters. -/
def zerosInFront (count : Nat) (text : Text) : Text :=
  List.replicate (count - text.length) '0' ++ text

/-- The digits, filled with zeros up to the width and grouped. -/
def grouped (layout : Layout) (width : Nat) (digits : Text) : Text :=
  match digits, layout.separator with
  | [], _ => []
  | digits, none => zerosInFront width digits
  | digits, some mark =>
    let size := groupSize layout.letter
    separated mark size (zerosInFront (digitsToFill size width) digits)

/-- Writes a number that was taken apart. -/
def writeNumeral (layout : Layout) (numeral : Numeral) : Text :=
  let front := numeral.sign ++ numeral.mark
  let width := layout.width.getD 0
  let toFill := if layout.fill = '0' ∧ layout.alignment = .afterSign then
      width - (front.length + numeral.rest.length)
    else 0
  let back := layout.grouped toFill numeral.digits ++ numeral.rest
  match layout.alignment with
  | .afterSign =>
    front ++ List.replicate (width - (front.length + back.length)) layout.fill ++ back
  | alignment => pad layout.fill alignment width (front ++ back)

/-- Writes a number in the layout of the given notation. -/
def applyToNumber (memory : Nat) (notated : Text) (owner : Kind) (n : Nat) :
    Except TemplateFault Text := do
  let layout ← read (.numbers owner) notated
  let numeral ← layout.numeral owner n
  layout.checkWidth memory
  return layout.writeNumeral numeral

end Layout

end IgniterLint
