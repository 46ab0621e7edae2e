/-
This file holds layouts: how wide a field of a template is written, on which side it is padded and
with what, and after how many characters it is cut. The notation of layouts is shared by texts and
numbers, so it has places for signs, digit separators and a letter for the kind of value. A layout
meant for a number is refused for a text with its own reason.
-/

import IgniterLint.Template.Fault
import IgniterLint.Text.Digit

namespace IgniterLint

open Reflection (Kind)

/-- On which side of a field its text stands. -/
inductive Alignment where
  | left
  | right
  | center
  /-- between the sign and the digits of a number -/
  | afterSign
deriving DecidableEq, Repr

namespace Alignment

/-- The alignment that a character asks for. -/
def ofChar? : Char → Option Alignment
  | '<' => some left
  | '>' => some right
  | '^' => some center
  | '=' => some afterSign
  | _ => none

end Alignment

/-- A layout as written, with every place of the notation. -/
structure Layout where
  fill : Char
  alignment : Alignment
  sign : Option Char
  negativeZero : Bool
  alternate : Bool
  width : Option Nat
  separator : Option Char
  precision : Option Nat
  letter : Char
deriving DecidableEq, Repr

namespace Layout

/-- The largest number that a layout or a field may name: sixty-three bits, all set. -/
def numberLimit : Nat := 0x7fffffffffffffff

/-- A number with one more digit. A number that is beyond the limit already stays as it is. -/
def withDigit (number : Nat) (c : Char) : Nat :=
  if numberLimit < number then number else 10 * number + (Text.digitValue? c).getD 0

/-- The value of a run of decimal digits, or a number beyond the limit if the value is beyond it. -/
def numberOf (digits : Text) : Nat := digits.foldl withDigit 0

/-- A number at the front of the text, if there is one, and the rest. -/
def readNumber (text : Text) : Except TemplateFault (Option Nat × Text) :=
  let digits := text.takeWhile Text.isDecimal
  if numberLimit < numberOf digits then .error .numberTooLarge
  else .ok (if digits.isEmpty then none else some (numberOf digits), text.dropWhile Text.isDecimal)

/-- The number that the whole text is, if it is one. -/
def indexOf (text : Text) : Except TemplateFault (Option Nat) := do
  let (number, rest) ← readNumber text
  return if rest.isEmpty then number else none

/-- The fill and the alignment at the front of the text. A character counts as the fill when an
alignment stands right behind it. -/
def readAlignment : Text → Option Char × Option Alignment × Text
  | fill :: mark :: rest =>
    match Alignment.ofChar? mark with
    | some alignment => (some fill, some alignment, rest)
    | none =>
      match Alignment.ofChar? fill with
      | some alignment => (none, some alignment, mark :: rest)
      | none => (none, none, fill :: mark :: rest)
  | [mark] =>
    match Alignment.ofChar? mark with
    | some alignment => (none, some alignment, [])
    | none => (none, none, [mark])
  | [] => (none, none, [])

/-- One character at the front of the text, if it is among those wanted, and the rest. -/
def readOne (wanted : Char → Bool) : Text → Option Char × Text
  | [] => (none, [])
  | c :: rest => if wanted c then (some c, rest) else (none, c :: rest)

/-- The separator of digits at the front of the text. Only one of the two may stand there. -/
def readSeparator (text : Text) : Except TemplateFault (Option Char × Text) :=
  match text with
  | ',' :: '_' :: _ => .error .twoSeparators
  | '_' :: ',' :: _ => .error .twoSeparators
  | ',' :: rest => .ok (some ',', rest)
  | '_' :: rest => .ok (some '_', rest)
  | _ => .ok (none, text)

/-- The precision at the front of the text: a point and a number. -/
def readPrecision : Text → Except TemplateFault (Option Nat × Text)
  | '.' :: rest => do
    let (number, rest) ← readNumber rest
    match number with
    | some n => return (some n, rest)
    | none => throw .missingPrecision
  | text => .ok (none, text)

/-- Whether numbers written with the letter may have their digits separated. The null character
stands for no letter and does not forbid it. -/
def separates (separator letter : Char) : Bool :=
  "defgEG%F\x00".toList.contains letter || (separator == '_' && "boxX".toList.contains letter)

/-- What a layout is read for: the kind of value, with the letter and the alignment that count when
none is given. -/
structure Subject where
  owner : Kind
  letter : Char
  alignment : Alignment
deriving DecidableEq, Repr

/-- Texts as the subject of a layout. -/
def Subject.texts : Subject := ⟨.texts, 's', .left⟩

/-- The alignment when none is given. A zero in front of the width pads a number behind its sign. -/
def Subject.alignmentFor (subject : Subject) (zeroInFront : Bool) : Alignment :=
  if zeroInFront && subject.alignment == .right then .afterSign else subject.alignment

/-- Reads a whole layout. A zero in front of the width is a fill, unless a fill was given. -/
def read (subject : Subject) (text : Text) : Except TemplateFault Layout := do
  let (fill, alignment, rest) := readAlignment text
  let (sign, rest) := readOne (fun c => c == '+' || c == '-' || c == ' ') rest
  let (negativeZero, rest) := readOne (· == 'z') rest
  let (alternate, rest) := readOne (· == '#') rest
  let (leadingZero, rest) := if fill.isSome then (none, rest) else readOne (· == '0') rest
  let (width, rest) ← readNumber rest
  let (separator, rest) ← readSeparator rest
  let (precision, rest) ← readPrecision rest
  let letter ← match rest with
    | [] => pure subject.letter
    | [letter] => pure letter
    | _ => throw (.malformedLayout text subject.owner)
  match separator with
  | some mark => unless separates mark letter do throw (.separatorRefused mark letter)
  | none => pure ()
  return {
    fill := (fill.or leadingZero).getD ' '
    alignment := alignment.getD (subject.alignmentFor leadingZero.isSome)
    sign := sign
    negativeZero := negativeZero.isSome
    alternate := alternate.isSome
    width := width
    separator := separator
    precision := precision
    letter := letter }

/-- A layout fits a text when nothing in it belongs to numbers. -/
def checkForText (layout : Layout) : Except TemplateFault Unit :=
  if layout.letter ≠ 's' then .error (.unknownLetter layout.letter .texts)
  else if layout.sign = some ' ' then .error .blankSignRefused
  else if layout.sign ≠ none then .error .signRefused
  else if layout.negativeZero then .error .negativeZeroRefused
  else if layout.alternate then .error .alternateRefused
  else if layout.alignment = .afterSign then .error .signPaddingRefused
  else .ok ()

/-- A field has to fit into memory, where fields up to the given width do. -/
def checkWidth (layout : Layout) (memory : Nat) : Except TemplateFault Unit :=
  if memory < layout.width.getD 0 then .error .noMemory else .ok ()

/-- The text cut to the precision. -/
def cut (precision : Option Nat) (text : Text) : Text :=
  match precision with
  | some n => text.take n
  | none => text

/-- How much of the padding goes in front. Of an odd amount around a centred text the smaller half
does. -/
def paddingBefore (alignment : Alignment) (padding : Nat) : Nat :=
  match alignment with
  | .right => padding
  | .center => padding / 2
  | .left | .afterSign => 0

/-- The text padded to the width. -/
def pad (fill : Char) (alignment : Alignment) (width : Nat) (text : Text) : Text :=
  let padding := width - text.length
  let before := paddingBefore alignment padding
  List.replicate before fill ++ text ++ List.replicate (padding - before) fill

/-- Writes a text as the layout says: cut first, then padded. -/
def write (layout : Layout) (text : Text) : Text :=
  pad layout.fill layout.alignment (layout.width.getD 0) (cut layout.precision text)

/-- Writes a text in the layout of the given notation. -/
def apply (memory : Nat) (notated text : Text) : Except TemplateFault Text := do
  let layout ← read .texts notated
  layout.checkForText
  layout.checkWidth memory
  return layout.write text

end Layout

end IgniterLint
