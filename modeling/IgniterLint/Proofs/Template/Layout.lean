/-
This file says how layouts for texts are written and what they do. A layout names a side and perhaps
a character to fill with, a width, and a precision. Reading what is written gives it back, because
the parts are told apart by their first characters: the side has a mark of its own, the width starts
with a digit and the precision with a point. Two things need care. The width zero looks like the
flag that fills with zeros, which then has nothing to fill. And numbers are read only up to a limit.

What a layout does to a text is said without the reader, by cutting and by filling up a list on its
left or its right.
-/

import IgniterLint.Proofs.Except
import IgniterLint.Proofs.Source.Occurrence
import IgniterLint.Template.Layout
import Mathlib.Data.Bool.AllAny
import Mathlib.Data.List.Basic

namespace IgniterLint

/-! ### Numerals -/

namespace Layout

theorem mem_digits_of_isDigit {c : Char} (digit : c.isDigit = true) :
    c ∈ "0123456789".toList := by
  rw [Char.isDigit, Bool.and_eq_true, decide_eq_true_iff, decide_eq_true_iff] at digit
  have starts : 48 ≤ c.toNat := digit.1
  have stops : c.toNat ≤ 57 := digit.2
  have isCode : Char.ofNat (48 + (c.toNat - 48)) = c := by
    rw [Nat.add_sub_cancel' starts, Char.ofNat_toNat]
  have each : ∀ n < 10, Char.ofNat (48 + n) ∈ "0123456789".toList := by decide
  have here := each (c.toNat - 48) (by omega)
  rwa [isCode] at here

theorem digitValue?_eq {c : Char} (digit : c.isDigit = true) :
    Text.digitValue? c = some (c.toNat - '0'.toNat) := by
  have each : ∀ c ∈ "0123456789".toList, Text.digitValue? c = some (c.toNat - '0'.toNat) :=
    List.all_iff_forall_prop.mp (by decide)
  exact each c (mem_digits_of_isDigit digit)

theorem isDecimal_of_isDigit {c : Char} (digit : c.isDigit = true) : Text.isDecimal c = true := by
  rw [Text.isDecimal, digitValue?_eq digit]
  rfl

/-- Up to the limit, the number that is read is the value of the digits. Beyond it, reading notices
that the value is beyond. -/
theorem numberOf_cases (digits : Text) (each : ∀ c ∈ digits, c.isDigit = true) :
    Nat.ofDigitChars 10 digits 0 ≤ numberLimit ∧
        numberOf digits = Nat.ofDigitChars 10 digits 0 ∨
      numberLimit < Nat.ofDigitChars 10 digits 0 ∧ numberLimit < numberOf digits := by
  induction digits using List.reverseRecOn with
  | nil => exact Or.inl ⟨Nat.zero_le _, rfl⟩
  | append_singleton digits c inductionHypothesis =>
    rw [List.forall_mem_append, List.forall_mem_singleton] at each
    have value : Nat.ofDigitChars 10 (digits ++ [c]) 0 =
        10 * Nat.ofDigitChars 10 digits 0 + (c.toNat - '0'.toNat) := by
      rw [Nat.ofDigitChars_eq_foldl, Nat.ofDigitChars_eq_foldl, List.foldl_concat]
    have read : numberOf (digits ++ [c]) =
        if numberLimit < numberOf digits then numberOf digits
        else 10 * numberOf digits + (c.toNat - '0'.toNat) := by
      rw [numberOf, List.foldl_concat, withDigit, digitValue?_eq each.2]
      rfl
    rw [value, read]
    rcases inductionHypothesis each.1 with ⟨within, same⟩ | ⟨beyond, noticed⟩
    · rw [if_neg (by omega), same]
      omega
    · rw [if_pos noticed]
      omega

/-- A numeral at the front of a text, with zeros in front or without, is read as its number. -/
theorem readNumber_numeral (zeros n : Nat) {rest : Text}
    (ended : ∀ c, rest.head? = some c → Text.isDecimal c = false) :
    readNumber (List.replicate zeros '0' ++ Text.ofNat n ++ rest) =
      if numberLimit < n then .error .numberTooLarge else .ok (some n, rest) := by
  have digits : ∀ c ∈ List.replicate zeros '0' ++ Text.ofNat n, c.isDigit = true := by
    rw [List.forall_mem_append]
    refine ⟨fun c member => ?_, fun c => Nat.isDigit_of_mem_toDigits (by decide) (by decide)⟩
    rw [List.eq_of_mem_replicate member]
    rfl
  have value : Nat.ofDigitChars 10 (List.replicate zeros '0' ++ Text.ofNat n) 0 = n := by
    rw [Nat.ofDigitChars_append, Nat.ofDigitChars_replicate_zero, Nat.mul_zero, Text.ofNat,
      Nat.ofDigitChars_ten_toDigits]
  have nonempty : (List.replicate zeros '0' ++ Text.ofNat n).isEmpty = false := by
    rw [List.isEmpty_eq_false_iff]
    exact List.append_ne_nil_of_right_ne_nil _ Nat.toDigits_ne_nil
  have decimal : ∀ c ∈ List.replicate zeros '0' ++ Text.ofNat n, Text.isDecimal c = true :=
    fun c member => isDecimal_of_isDigit (digits c member)
  rw [readNumber]
  simp only [takeWhile_append_eq decimal ended, dropWhile_append_eq decimal ended, nonempty]
  rcases numberOf_cases _ digits with ⟨within, same⟩ | ⟨beyond, noticed⟩
  · rw [value] at within same
    have small : ¬ numberLimit < n := by omega
    rw [same, if_neg small, if_neg small]
    rfl
  · rw [value] at beyond
    rw [if_pos noticed, if_pos beyond]

theorem readNumber_of_none {rest : Text}
    (ended : ∀ c, rest.head? = some c → Text.isDecimal c = false) :
    readNumber rest = .ok (none, rest) := by
  have taken : ([] ++ rest).takeWhile Text.isDecimal = [] := takeWhile_append_eq nofun ended
  have dropped : ([] ++ rest).dropWhile Text.isDecimal = rest := dropWhile_append_eq nofun ended
  rw [List.nil_append] at taken dropped
  rw [readNumber]
  simp only [taken, dropped]
  rfl

end Layout

/-! ### Layouts for texts -/

namespace Template

/-- Where a text stands in a field that is wider than it. -/
inductive Placement where
  | left
  | right
  | center
deriving DecidableEq, Repr

namespace Placement

/-- The mark of a placement. -/
def mark : Placement → Char
  | left => '<'
  | right => '>'
  | center => '^'

/-- The text filled up to the width, on the sides where it does not stand. In the center, what is
left over of an odd number goes to the right. -/
def fillUp (fill : Char) (width : Nat) (text : Text) : Placement → Text
  | left => text.rightpad width fill
  | right => text.leftpad width fill
  | center => (text.leftpad (text.length + (width - text.length) / 2) fill).rightpad width fill

/-- The alignment that a mark asks for. -/
def alignment : Placement → Alignment
  | left => .left
  | right => .right
  | center => .center

end Placement

/-- A character to fill with; it is not a brace. -/
structure Fill where
  char : Char
  notOpening : char ≠ '{'
  notClosing : char ≠ '}'
deriving DecidableEq, Repr

/-- A placement, perhaps with a character to fill with in front of its mark. -/
structure Aligned where
  fill : Option Fill
  placement : Placement
deriving DecidableEq, Repr

/-- A number written out, perhaps with zeros in front. -/
structure Numeral where
  zeros : Nat
  number : Nat
deriving DecidableEq, Repr

/-- A layout as it may be given to a text. Only the precision may have zeros in front. -/
structure TextLayout where
  aligned : Option Aligned
  width : Option Nat
  precision : Option Numeral
deriving DecidableEq, Repr

def Aligned.written (aligned : Aligned) : Text :=
  aligned.fill.elim [] (fun fill => [fill.char]) ++ [aligned.placement.mark]

theorem Aligned.not_brace_of_mem_written {aligned : Aligned} {c : Char}
    (member : c ∈ aligned.written) : c ≠ '{' ∧ c ≠ '}' := by
  obtain ⟨fill, placement⟩ := aligned
  rcases List.mem_append.mp member with inFill | inMark
  · cases fill with
    | none => exact absurd inFill List.not_mem_nil
    | some fill =>
      rw [List.mem_singleton.mp inFill]
      exact ⟨fill.notOpening, fill.notClosing⟩
  · rw [List.mem_singleton.mp inMark]
    have each : ∀ placement : Placement, placement.mark ≠ '{' ∧ placement.mark ≠ '}' := by
      intro placement
      cases placement <;> decide
    exact each placement

def Numeral.written (numeral : Numeral) : Text :=
  List.replicate numeral.zeros '0' ++ Text.ofNat numeral.number

theorem mem_ofNat {n : Nat} {c : Char} (member : c ∈ Text.ofNat n) :
    c ∈ "0123456789.".toList := by
  have digits : "0123456789".toList ⊆ "0123456789.".toList := by decide
  have isDigit : c.isDigit = true := Nat.isDigit_of_mem_toDigits (by decide) (by decide) member
  exact digits (Layout.mem_digits_of_isDigit isDigit)

theorem Numeral.mem_written {numeral : Numeral} {c : Char} (member : c ∈ numeral.written) :
    c ∈ "0123456789.".toList := by
  rcases List.mem_append.mp member with inZeros | inNumber
  · rw [List.eq_of_mem_replicate inZeros]
    decide
  · exact mem_ofNat inNumber

namespace TextLayout

/-- The precision with the point in front of it. -/
def precisionWritten (layout : TextLayout) : Text :=
  layout.precision.elim [] fun numeral => '.' :: numeral.written

/-- The width and the precision. -/
def sizeWritten (layout : TextLayout) : Text :=
  layout.width.elim [] Text.ofNat ++ layout.precisionWritten

/-- The notation of the layout. -/
def written (layout : TextLayout) : Text :=
  layout.aligned.elim [] Aligned.written ++ layout.sizeWritten

/-- The character to fill with that the layout names, if it names one. -/
def givenFill (layout : TextLayout) : Option Char := (layout.aligned.bind (·.fill)).map (·.char)

/-- The character that a field of this layout is filled up with: a blank if none is given. -/
def fill (layout : TextLayout) : Char := layout.givenFill.getD ' '

/-- Where a text stands in a field of this layout: on the left if nothing is said. -/
def placement (layout : TextLayout) : Placement :=
  (layout.aligned.map (·.placement)).getD .left

/-- The text in a field of this layout: cut to the precision and filled up to the width. -/
def render (layout : TextLayout) (text : Text) : Text :=
  layout.placement.fillUp layout.fill (layout.width.getD 0)
    (layout.precision.elim text fun numeral => text.take numeral.number)

/-- The layout in the places of the notation that texts share with numbers. -/
def notated (layout : TextLayout) (fill : Char) (width : Option Nat) : Layout where
  fill := fill
  alignment := layout.placement.alignment
  sign := none
  negativeZero := false
  alternate := false
  width := width
  separator := none
  precision := layout.precision.map (·.number)
  letter := 's'

/-- The numbers of the layout can be read. -/
def Readable (layout : TextLayout) : Prop :=
  layout.width.getD 0 ≤ Layout.numberLimit ∧
    layout.precision.elim 0 (·.number) ≤ Layout.numberLimit

/-- There is memory for a field of the layout. -/
def Held (memory : Nat) (layout : TextLayout) : Prop := layout.width.getD 0 ≤ memory

instance (layout : TextLayout) : Decidable layout.Readable := inferInstanceAs (Decidable (_ ∧ _))

instance (memory : Nat) (layout : TextLayout) : Decidable (layout.Held memory) :=
  inferInstanceAs (Decidable (_ ≤ _))

/-! ### Reading what is written -/

/-- Widths and precisions are written with digits and points. -/
theorem mem_sizeWritten {layout : TextLayout} {c : Char} (member : c ∈ layout.sizeWritten) :
    c ∈ "0123456789.".toList := by
  obtain ⟨aligned, width, precision⟩ := layout
  rcases List.mem_append.mp member with inWidth | inPrecision
  · cases width with
    | none => exact absurd inWidth List.not_mem_nil
    | some n => exact mem_ofNat inWidth
  · cases precision with
    | none => exact absurd inPrecision List.not_mem_nil
    | some numeral =>
      rcases List.mem_cons.mp inPrecision with rfl | inNumeral
      · decide
      · exact numeral.mem_written inNumeral

/-- Before a text without marks of a placement, the alignment ends where it was written to end. -/
theorem readAlignment_append {aligned : Option Aligned} {rest : Text}
    (unmarked : ∀ c ∈ rest, Alignment.ofChar? c = none) :
    Layout.readAlignment (aligned.elim [] Aligned.written ++ rest) =
      ((aligned.bind (·.fill)).map (·.char), aligned.map (·.placement.alignment), rest) := by
  have marked : ∀ placement : Placement,
      Alignment.ofChar? placement.mark = some placement.alignment := by
    intro placement
    cases placement <;> rfl
  rcases aligned with _ | ⟨_ | fill, placement⟩
  · rcases rest with _ | ⟨first, _ | ⟨second, rest⟩⟩
    · rfl
    · simp [Layout.readAlignment, unmarked first]
    · simp [Layout.readAlignment, unmarked first, unmarked second]
  · rcases rest with _ | ⟨first, rest⟩
    · simp [Layout.readAlignment, Aligned.written, marked]
    · simp [Layout.readAlignment, Aligned.written, marked, unmarked first]
  · simp [Layout.readAlignment, Aligned.written, marked]

theorem readAlignment_written (layout : TextLayout) :
    Layout.readAlignment layout.written =
      (layout.givenFill, layout.aligned.map (·.placement.alignment), layout.sizeWritten) := by
  have each : ∀ c ∈ "0123456789.".toList, Alignment.ofChar? c = none :=
    List.all_iff_forall_prop.mp (by decide)
  exact readAlignment_append fun c member => each c (mem_sizeWritten member)

theorem readOne_eq_none {wanted : Char → Bool} {rest : Text}
    (unwanted : ∀ c, rest.head? = some c → wanted c = false) :
    Layout.readOne wanted rest = (none, rest) := by
  cases rest with
  | nil => rfl
  | cons c rest => rw [Layout.readOne, unwanted c rfl]; rfl

/-- Nothing but digits and a point is found at the front of a size. -/
theorem readOne_unwanted (layout : TextLayout) (wanted : Char → Bool)
    (nowhere : "0123456789.".toList.any wanted = false) :
    Layout.readOne wanted layout.sizeWritten = (none, layout.sizeWritten) := by
  refine readOne_eq_none fun c starts => Bool.eq_false_iff.mpr ?_
  exact List.any_eq_false.mp nowhere c (mem_sizeWritten (List.mem_of_mem_head? starts))

/-- The numeral of a number other than zero does not start with a zero. -/
theorem head?_ofNat {n : Nat} (positive : 0 < n) :
    ∃ c ∈ "123456789".toList, (Text.ofNat n).head? = some c := by
  have single : ∀ n < 10, 0 < n → n.digitChar ∈ "123456789".toList := by decide
  induction n using Nat.strongRecOn with
  | ind n inductionHypothesis =>
    rw [Text.ofNat]
    rcases Nat.lt_or_ge n 10 with short | long
    · rw [Nat.toDigits_of_lt_base short]
      exact ⟨_, single n short positive, rfl⟩
    · obtain ⟨c, member, starts⟩ := inductionHypothesis (n / 10) (by omega) (by omega)
      rw [Nat.toDigits_of_base_le (by decide) long, List.head?_append, ← Text.ofNat, starts]
      exact ⟨c, member, rfl⟩

theorem head?_precisionWritten (layout : TextLayout) :
    ∀ c, layout.precisionWritten.head? = some c → c = '.' := by
  obtain ⟨aligned, width, precision⟩ := layout
  intro c starts
  cases precision with
  | none => exact nomatch starts
  | some numeral => exact (Option.some.inj starts).symm

theorem not_isDecimal_head_precisionWritten (layout : TextLayout) :
    ∀ c, layout.precisionWritten.head? = some c → Text.isDecimal c = false := by
  intro c starts
  rw [head?_precisionWritten layout c starts]
  decide

/-- What the flag for zeros takes from a size: a width of zero, if there is one. -/
theorem readOne_sizeWritten (layout : TextLayout) :
    Layout.readOne (· == '0') layout.sizeWritten =
      if layout.width = some 0 then (some '0', layout.precisionWritten)
      else (none, layout.sizeWritten) := by
  rcases given : layout.width with _ | _ | n
  · rw [if_neg nofun]
    refine readOne_eq_none fun c starts => ?_
    rw [sizeWritten, given] at starts
    rw [head?_precisionWritten layout c starts]
    rfl
  · rw [sizeWritten, given]
    rfl
  · rw [if_neg (by simp)]
    refine readOne_eq_none fun c starts => ?_
    obtain ⟨first, nonzero, leads⟩ := head?_ofNat (Nat.succ_pos n)
    rw [sizeWritten, given, Option.elim_some, List.head?_append, leads] at starts
    obtain rfl : first = c := Option.some.inj starts
    have each : ∀ c ∈ "123456789".toList, (c == '0') = false :=
      List.all_iff_forall_prop.mp (by decide)
    exact each first nonzero

theorem readNumber_sizeWritten (layout : TextLayout) :
    Layout.readNumber layout.sizeWritten =
      if Layout.numberLimit < layout.width.getD 0 then .error .numberTooLarge
      else .ok (layout.width, layout.precisionWritten) := by
  have ended := layout.not_isDecimal_head_precisionWritten
  cases given : layout.width with
  | none =>
    rw [sizeWritten, given]
    exact Layout.readNumber_of_none ended
  | some n =>
    rw [sizeWritten, given]
    exact Layout.readNumber_numeral 0 n ended

theorem readSeparator_precisionWritten (layout : TextLayout) :
    Layout.readSeparator layout.precisionWritten = .ok (none, layout.precisionWritten) := by
  rw [precisionWritten]
  cases layout.precision <;> rfl

theorem readPrecision_precisionWritten (layout : TextLayout) :
    Layout.readPrecision layout.precisionWritten =
      if Layout.numberLimit < layout.precision.elim 0 (·.number) then .error .numberTooLarge
      else .ok (layout.precision.map (·.number), []) := by
  rw [precisionWritten]
  cases layout.precision with
  | none => rfl
  | some numeral =>
    have ended : ∀ c, ([] : Text).head? = some c → Text.isDecimal c = false := nofun
    have read := Layout.readNumber_numeral numeral.zeros numeral.number ended
    rw [List.append_nil] at read
    rw [Option.elim_some, Option.elim_some, Layout.readPrecision, Numeral.written, read]
    split
    · rfl
    · rfl

/-- The flag for zeros and the width behind it. If there is a flag then it is the width, which is
zero and has nothing to fill. -/
theorem exists_readNumber_of_flag (layout : TextLayout) (filled : Bool) :
    ∃ flag rest width,
      (if filled then (none, layout.sizeWritten)
        else Layout.readOne (· == '0') layout.sizeWritten) = (flag, rest) ∧
      Layout.readNumber rest =
        (if Layout.numberLimit < layout.width.getD 0 then .error .numberTooLarge
        else .ok (width, layout.precisionWritten)) ∧
      width.getD 0 = layout.width.getD 0 ∧ (flag = none ∨ layout.width.getD 0 = 0) := by
  -- The flag is only looked for where no fill was given, and all it can find is a width of zero.
  by_cases flagged : filled = false ∧ layout.width = some 0
  · obtain ⟨rfl, zero⟩ := flagged
    refine ⟨some '0', layout.precisionWritten, none, ?_, ?_, ?_, ?_⟩
    · rw [if_neg Bool.false_ne_true, readOne_sizeWritten, if_pos zero]
    · rw [zero]
      exact Layout.readNumber_of_none layout.not_isDecimal_head_precisionWritten
    · rw [zero]
      rfl
    · rw [zero]
      exact Or.inr rfl
  · refine ⟨none, layout.sizeWritten, layout.width, ?_, readNumber_sizeWritten layout, rfl,
      Or.inl rfl⟩
    split
    · rfl
    · rename_i unfilled
      rw [readOne_sizeWritten, if_neg]
      intro zero
      exact flagged ⟨Bool.eq_false_iff.mpr unfilled, zero⟩

/-- What is written is read back, up to a width of zero, which does not show. -/
theorem exists_read_written (layout : TextLayout) :
    ∃ fill width, (fill = layout.fill ∨ layout.width.getD 0 = 0) ∧
      width.getD 0 = layout.width.getD 0 ∧
      Layout.read .texts layout.written =
        if Layout.numberLimit < layout.width.getD 0 then .error .numberTooLarge
        else if Layout.numberLimit < layout.precision.elim 0 (·.number) then
          .error .numberTooLarge
        else .ok (layout.notated fill width) := by
  obtain ⟨flag, rest, width, flagged, numbered, sameWidth, flagless⟩ :=
    layout.exists_readNumber_of_flag layout.givenFill.isSome
  refine ⟨(layout.givenFill.or flag).getD ' ', width, ?_, sameWidth, ?_⟩
  · refine flagless.imp_left ?_
    rintro rfl
    rw [Option.or_none]
    rfl
  · rw [Layout.read, readAlignment_written]
    simp only [layout.readOne_unwanted (fun c => c == '+' || c == '-' || c == ' ') (by decide),
      layout.readOne_unwanted (· == 'z') (by decide),
      layout.readOne_unwanted (· == '#') (by decide), flagged, numbered]
    split
    · rfl
    · simp only [ok_bind, readSeparator_precisionWritten, readPrecision_precisionWritten]
      split
      · rfl
      · have aligned : (layout.aligned.map (·.placement.alignment)).getD
            (Layout.Subject.texts.alignmentFor flag.isSome) = layout.placement.alignment := by
          rw [placement]
          cases layout.aligned <;> cases flag <;> rfl
        rw [notated, ← aligned]
        rfl

/-! ### Writing a text in a layout -/

theorem pad_eq_fillUp (fill : Char) (placement : Placement) (width : Nat) (text : Text) :
    Layout.pad fill placement.alignment width text = placement.fillUp fill width text := by
  cases placement with
  | left => rfl
  | right =>
    rw [Placement.fillUp, List.leftpad, Layout.pad, Placement.alignment]
    simp [Layout.paddingBefore]
  | center =>
    rw [Placement.fillUp, List.leftpad, List.rightpad, Layout.pad, Placement.alignment]
    have before : text.length + (width - text.length) / 2 - text.length =
        (width - text.length) / 2 := by omega
    have behind : width - ((width - text.length) / 2 + text.length) =
        width - text.length - (width - text.length) / 2 := by omega
    rw [List.length_append, List.length_replicate, before, behind]
    rfl

theorem fillUp_zero (fill : Char) (placement : Placement) (text : Text) :
    placement.fillUp fill 0 text = text := by
  cases placement <;> simp [Placement.fillUp, List.leftpad, List.rightpad]

theorem checkForText_notated (layout : TextLayout) (fill : Char) (width : Option Nat) :
    (layout.notated fill width).checkForText = .ok () := by
  rw [Layout.checkForText, notated]
  cases layout.placement <;> rfl

theorem write_notated {layout : TextLayout} {fill : Char} {width : Option Nat}
    (sameFill : fill = layout.fill ∨ layout.width.getD 0 = 0)
    (sameWidth : width.getD 0 = layout.width.getD 0) (text : Text) :
    (layout.notated fill width).write text = layout.render text := by
  have cut : Layout.cut (layout.precision.map (·.number)) text =
      layout.precision.elim text fun numeral => text.take numeral.number := by
    cases layout.precision <;> rfl
  rw [Layout.write, notated, pad_eq_fillUp, sameWidth, cut, render]
  rcases sameFill with rfl | zero
  · rfl
  · rw [zero, fillUp_zero, fillUp_zero]

theorem checkWidth_notated (memory : Nat) (layout : TextLayout) (fill : Char) {width : Option Nat}
    (sameWidth : width.getD 0 = layout.width.getD 0) :
    (layout.notated fill width).checkWidth memory =
      if layout.Held memory then .ok () else .error .noMemory := by
  rw [Layout.checkWidth, notated, sameWidth]
  by_cases held : layout.Held memory
  · rw [if_pos held, if_neg (Nat.not_lt.mpr held)]
  · rw [if_neg held, if_pos (Nat.not_le.mp held)]

/-- A text in the layout that is written. Numbers that cannot be read are noticed first, and then a
width that there is no memory for. -/
theorem apply_written (memory : Nat) (layout : TextLayout) (text : Text) :
    Layout.apply memory layout.written text =
      if layout.Readable then
        if layout.Held memory then .ok (layout.render text) else .error .noMemory
      else .error .numberTooLarge := by
  obtain ⟨fill, width, sameFill, sameWidth, read⟩ := layout.exists_read_written
  rw [Layout.apply, read]
  by_cases wide : Layout.numberLimit < layout.width.getD 0
  · rw [if_pos wide, if_neg fun readable => Nat.not_le.mpr wide readable.1]
    rfl
  by_cases precise : Layout.numberLimit < layout.precision.elim 0 (·.number)
  · rw [if_neg wide, if_pos precise, if_neg fun readable => Nat.not_le.mpr precise readable.2]
    rfl
  rw [if_neg wide, if_neg precise, if_pos ⟨Nat.not_lt.mp wide, Nat.not_lt.mp precise⟩, ok_bind,
    checkForText_notated, ok_bind, checkWidth_notated memory layout fill sameWidth]
  split
  · rw [ok_bind, write_notated sameFill sameWidth]
    rfl
  · rfl

/-- A layout holds no brace, so it ends where its field does. -/
theorem not_brace_of_mem_written {layout : TextLayout} {c : Char} (member : c ∈ layout.written) :
    c ≠ '{' ∧ c ≠ '}' := by
  rcases List.mem_append.mp member with inAligned | inSize
  · obtain ⟨aligned, width, precision⟩ := layout
    cases aligned with
    | none => exact absurd inAligned List.not_mem_nil
    | some aligned => exact aligned.not_brace_of_mem_written inAligned
  · have each : ∀ c ∈ "0123456789.".toList, c ≠ '{' ∧ c ≠ '}' :=
      List.all_iff_forall_prop.mp (by decide)
    exact each c (mem_sizeWritten inSize)

end TextLayout

end Template

end IgniterLint
