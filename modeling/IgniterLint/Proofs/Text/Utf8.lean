/-
This file puts the bytes of a text beside the decoder. The decoder takes a sequence of one to four
bytes at a time and makes a character of it. The sequences that it takes are told apart by what they
have to satisfy, and they turn out to be the bytes of the characters that they make, no more and no
less: a character is read back from its bytes, and a sequence that is read as a character is the one
that the character has. So the bytes that decode at all are those of a text, and they decode to it.
-/

import Mathlib.Data.List.Basic
import IgniterLint.Proofs.Except
import IgniterLint.Text.Utf8

namespace IgniterLint.Utf8

/-- The bytes of a text. -/
def encode (text : Text) : List UInt8 := text.flatMap String.utf8EncodeChar

theorem encode_cons (c : Char) (text : Text) :
    encode (c :: text) = String.utf8EncodeChar c ++ encode text := rfl

/-! ### Sequences -/

/-- The bytes are one sequence that the decoder takes, and the character is what it makes of it. -/
inductive Sequence : List UInt8 → Char → Prop where
  | one {a : UInt8} (below : a.toNat < 0x80) : Sequence [a] (Char.ofNat a.toNat)
  | two {a b : UInt8} (least : 0xc2 ≤ a.toNat) (below : a.toNat < 0xe0)
      (second : isSecond a b = true) : Sequence [a, b] (char₂ a b)
  | three {a b c : UInt8} (least : 0xe0 ≤ a.toNat) (below : a.toNat < 0xf0)
      (second : isSecond a b = true) (third : isContinuation c = true) :
      Sequence [a, b, c] (char₃ a b c)
  | four {a b c d : UInt8} (least : 0xf0 ≤ a.toNat) (below : a.toNat < 0xf5)
      (second : isSecond a b = true) (third : isContinuation c = true)
      (fourth : isContinuation d = true) : Sequence [a, b, c, d] (char₄ a b c d)

theorem isContinuation_iff (b : UInt8) :
    isContinuation b = true ↔ 0x80 ≤ b.toNat ∧ b.toNat < 0xc0 := by
  simp [isContinuation, UInt8.le_iff_toNat_le, UInt8.lt_iff_toNat_lt]

theorem isSecond_iff (a b : UInt8) :
    isSecond a b = true ↔
      (0x80 ≤ b.toNat ∧ b.toNat < 0xc0) ∧ (a.toNat = 0xe0 → 0xa0 ≤ b.toNat) ∧
        (a.toNat = 0xed → b.toNat < 0xa0) ∧ (a.toNat = 0xf0 → 0x90 ≤ b.toNat) ∧
        (a.toNat = 0xf4 → b.toNat < 0x90) := by
  simp [isSecond, isContinuation_iff, UInt8.le_iff_toNat_le, UInt8.lt_iff_toNat_lt,
    ← UInt8.toNat_inj, and_assoc, imp_iff_not_or]

/-! ### From a character to its bytes and back -/

theorem exists_byte {n : Nat} (small : n < 256) : ∃ b : UInt8, UInt8.ofNat n = b ∧ b.toNat = n :=
  ⟨_, rfl, UInt8.toNat_ofNat_of_lt' small⟩

theorem ofNat_eq_of_toNat {b : UInt8} {n : Nat} (same : b.toNat = n) : UInt8.ofNat n = b := by
  rw [← same, UInt8.ofNat_toNat]

theorem toNat_ofNat {code : Nat} (valid : code.isValidChar) : (Char.ofNat code).toNat = code := by
  rw [Char.ofNat, dif_pos valid]
  exact UInt32.toNat_ofNatLT

theorem sequence_two {code : Nat} (least : 0x80 ≤ code) (below : code < 0x800) :
    Sequence [UInt8.ofNat (code / 64 % 32 + 192), UInt8.ofNat (code % 64 + 128)]
      (Char.ofNat code) := by
  obtain ⟨a, isFirst, first⟩ := exists_byte (show code / 64 % 32 + 192 < 256 by omega)
  obtain ⟨b, isSecond, second⟩ := exists_byte (show code % 64 + 128 < 256 by omega)
  have made : code = a.toNat % 32 * 64 + payload b := by rw [payload]; omega
  rw [isFirst, isSecond, made]
  exact .two (by omega) (by omega) ((isSecond_iff a b).mpr (by omega))

theorem sequence_three {code : Nat} (least : 0x800 ≤ code) (below : code < 0x10000)
    (valid : code.isValidChar) :
    Sequence [UInt8.ofNat (code / 4096 % 16 + 224), UInt8.ofNat (code / 64 % 64 + 128),
      UInt8.ofNat (code % 64 + 128)] (Char.ofNat code) := by
  obtain ⟨a, isFirst, first⟩ := exists_byte (show code / 4096 % 16 + 224 < 256 by omega)
  obtain ⟨b, isSecond, second⟩ := exists_byte (show code / 64 % 64 + 128 < 256 by omega)
  obtain ⟨c, isThird, third⟩ := exists_byte (show code % 64 + 128 < 256 by omega)
  have made : code = a.toNat % 16 * 4096 + payload b * 64 + payload c := by
    rw [payload, payload]
    omega
  rw [Nat.isValidChar] at valid
  rw [isFirst, isSecond, isThird, made]
  exact .three (by omega) (by omega) ((isSecond_iff a b).mpr (by omega))
    ((isContinuation_iff c).mpr (by omega))

theorem sequence_four {code : Nat} (least : 0x10000 ≤ code) (valid : code.isValidChar) :
    Sequence [UInt8.ofNat (code / 262144 % 8 + 240), UInt8.ofNat (code / 4096 % 64 + 128),
      UInt8.ofNat (code / 64 % 64 + 128), UInt8.ofNat (code % 64 + 128)] (Char.ofNat code) := by
  obtain ⟨a, isFirst, first⟩ := exists_byte (show code / 262144 % 8 + 240 < 256 by omega)
  obtain ⟨b, isSecond, second⟩ := exists_byte (show code / 4096 % 64 + 128 < 256 by omega)
  obtain ⟨c, isThird, third⟩ := exists_byte (show code / 64 % 64 + 128 < 256 by omega)
  obtain ⟨d, isFourth, fourth⟩ := exists_byte (show code % 64 + 128 < 256 by omega)
  rw [Nat.isValidChar] at valid
  have made : code =
      a.toNat % 8 * 262144 + payload b * 4096 + payload c * 64 + payload d := by
    rw [payload, payload, payload]
    omega
  rw [isFirst, isSecond, isThird, isFourth, made]
  exact .four (by omega) (by omega) ((isSecond_iff a b).mpr (by omega))
    ((isContinuation_iff c).mpr (by omega)) ((isContinuation_iff d).mpr (by omega))

/-- The decoder takes the bytes of a character as one sequence and makes the character of it. -/
theorem sequence_utf8EncodeChar (c : Char) : Sequence (String.utf8EncodeChar c) c := by
  have valid : c.toNat.isValidChar := c.valid
  have isCode := Char.ofNat_toNat c
  rw [String.utf8EncodeChar.eq_1, Char.toNat_val]
  generalize c.toNat = code at valid isCode ⊢
  subst isCode
  split
  · obtain ⟨a, isFirst, first⟩ := exists_byte (show code < 256 by omega)
    rw [isFirst, ← first]
    exact .one (by omega)
  split
  · exact sequence_two (by omega) (by omega)
  split
  · exact sequence_three (by omega) (by omega) valid
  · exact sequence_four (by omega) valid

/-- A sequence that the decoder takes is what the character that it makes has as its bytes. -/
theorem Sequence.eq_utf8EncodeChar {bytes : List UInt8} {character : Char}
    (taken : Sequence bytes character) : bytes = String.utf8EncodeChar character := by
  rw [String.utf8EncodeChar.eq_1, Char.toNat_val]
  cases taken with
  | @one a below =>
    rw [toNat_ofNat (Or.inl (by omega)), if_pos (by omega), UInt8.ofNat_toNat]
  | @two a b least below second =>
    have bounds := (isSecond_iff a b).mp second
    have code : (char₂ a b).toNat = a.toNat % 32 * 64 + b.toNat % 64 :=
      toNat_ofNat (Or.inl (by rw [payload]; omega))
    rw [code, if_neg (by omega), if_pos (by omega), ofNat_eq_of_toNat (b := a) (by omega),
      ofNat_eq_of_toNat (b := b) (by omega)]
  | @three a b c least below second third =>
    have bounds := (isSecond_iff a b).mp second
    have thirdBounds := (isContinuation_iff c).mp third
    have code : (char₃ a b c).toNat = a.toNat % 16 * 4096 + b.toNat % 64 * 64 + c.toNat % 64 :=
      toNat_ofNat (by rw [Nat.isValidChar, payload, payload]; omega)
    rw [code, if_neg (by omega), if_neg (by omega), if_pos (by omega),
      ofNat_eq_of_toNat (b := a) (by omega), ofNat_eq_of_toNat (b := b) (by omega),
      ofNat_eq_of_toNat (b := c) (by omega)]
  | @four a b c d least below second third fourth =>
    have bounds := (isSecond_iff a b).mp second
    have thirdBounds := (isContinuation_iff c).mp third
    have fourthBounds := (isContinuation_iff d).mp fourth
    have code : (char₄ a b c d).toNat = a.toNat % 8 * 262144 + b.toNat % 64 * 4096 +
        c.toNat % 64 * 64 + d.toNat % 64 :=
      toNat_ofNat (by rw [Nat.isValidChar, payload, payload, payload]; omega)
    rw [code, if_neg (by omega), if_neg (by omega), if_neg (by omega),
      ofNat_eq_of_toNat (b := a) (by omega), ofNat_eq_of_toNat (b := b) (by omega),
      ofNat_eq_of_toNat (b := c) (by omega), ofNat_eq_of_toNat (b := d) (by omega)]

/-! ### Decoding -/

/-- A sequence at the front is read as its character, and decoding goes on behind it. -/
theorem Sequence.decodeFrom_append {bytes : List UInt8} {character : Char}
    (taken : Sequence bytes character) (position : Nat) (rest : List UInt8) :
    decodeFrom position (bytes ++ rest) =
      (decodeFrom (position + bytes.length) rest >>= fun text => pure (character :: text)) := by
  rw [decodeFrom.eq_def]
  cases taken with
  | @one a below =>
    simp only [List.cons_append, List.nil_append, UInt8.lt_iff_toNat_lt, UInt8.toNat_ofNat]
    rw [if_pos below]
    rfl
  | @two a b least below second =>
    simp only [List.cons_append, List.nil_append, UInt8.lt_iff_toNat_lt, UInt8.toNat_ofNat]
    rw [if_neg (by omega), if_neg (by omega), if_pos (by omega), if_pos second]
    rfl
  | @three a b c least below second third =>
    simp only [List.cons_append, List.nil_append, UInt8.lt_iff_toNat_lt, UInt8.toNat_ofNat]
    rw [if_neg (by omega), if_neg (by omega), if_neg (by omega), if_pos (by omega), if_pos second,
      if_pos third]
    rfl
  | @four a b c d least below second third fourth =>
    simp only [List.cons_append, List.nil_append, UInt8.lt_iff_toNat_lt, UInt8.toNat_ofNat]
    rw [if_neg (by omega), if_neg (by omega), if_neg (by omega), if_neg (by omega),
      if_pos (by omega), if_pos second, if_pos third, if_pos fourth]
    rfl

/-- A sequence in front of bytes that are those of a text goes with its character in front of the
text. -/
theorem Sequence.append_eq_encode {taken bytes : List UInt8} {character : Char}
    {decoded : Except Utf8Fault Text} {text : Text} (sequence : Sequence taken character)
    (behind : ∀ {later : Text}, decoded = .ok later → bytes = encode later)
    (returned : (decoded >>= fun later => pure (character :: later)) = .ok text) :
    taken ++ bytes = encode text := by
  obtain ⟨later, decodedLater, made⟩ := bind_eq_ok_iff.mp returned
  obtain rfl := Except.ok.inj made
  rw [encode_cons, ← sequence.eq_utf8EncodeChar, ← behind decodedLater]

/-- Bytes that decode are those of the text that they decode to. -/
theorem eq_encode_of_decodeFrom {position : Nat} {bytes : List UInt8} {text : Text}
    (decoded : decodeFrom position bytes = .ok text) : bytes = encode text := by
  fun_induction decodeFrom position bytes generalizing text with
  | case1 position =>
    obtain rfl := Except.ok.inj decoded
    rfl
  | case2 position a rest below inductionHypothesis =>
    rw [UInt8.lt_iff_toNat_lt] at below
    exact (Sequence.one below).append_eq_encode inductionHypothesis decoded
  | case5 position a notOne notStray below b rest second inductionHypothesis =>
    rw [UInt8.not_lt, UInt8.le_iff_toNat_le] at notStray
    rw [UInt8.lt_iff_toNat_lt] at below
    exact (Sequence.two notStray below second).append_eq_encode inductionHypothesis decoded
  | case9 position a notOne notStray notTwo below b second c rest third inductionHypothesis =>
    rw [UInt8.not_lt, UInt8.le_iff_toNat_le] at notTwo
    rw [UInt8.lt_iff_toNat_lt] at below
    exact (Sequence.three notTwo below second third).append_eq_encode inductionHypothesis decoded
  | case15 position a notOne notStray notTwo notThree below b second c third d rest fourth
      inductionHypothesis =>
    rw [UInt8.not_lt, UInt8.le_iff_toNat_le] at notThree
    rw [UInt8.lt_iff_toNat_lt] at below
    exact (Sequence.four notThree below second third fourth).append_eq_encode inductionHypothesis
      decoded
  -- All other branches end in a fault.
  | _ => exact nomatch decoded

/-- The bytes of a text decode to it. -/
theorem decodeFrom_encode (position : Nat) (text : Text) :
    decodeFrom position (encode text) = .ok text := by
  induction text generalizing position with
  | nil => rfl
  | cons c text inductionHypothesis =>
    rw [encode_cons, (sequence_utf8EncodeChar c).decodeFrom_append, inductionHypothesis]
    rfl

/-- The bytes of a text decode to it, and no other bytes decode. -/
theorem decode_eq_ok_iff {bytes : List UInt8} {text : Text} :
    decode bytes = .ok text ↔ bytes = encode text := by
  refine ⟨eq_encode_of_decodeFrom, ?_⟩
  rintro rfl
  exact decodeFrom_encode 0 text

-- A spelling longer than need be, a surrogate, a code past the last, a broken off sequence and a
-- stray byte are the bytes of no text.
example : ∀ bytes ∈ [[0xc0, 0x80], [0xed, 0xa0, 0x80], [0xf4, 0x90, 0x80, 0x80], [0xe2, 0x82],
    [0xbf]], (decode bytes).isOk = false := by decide

end IgniterLint.Utf8
