/-
This file decodes UTF-8. A character takes one to four bytes, the first of which tells how many; the
others are continuation bytes. Some first bytes narrow the range of the second one, which keeps out
spellings that are longer than they need be, surrogates, and codes past the last character. The
first sequence that is none of these is a fault, which covers the longest beginning of a character
that stands there.
-/

import IgniterLint.Text.Quoted

namespace IgniterLint

/-- What is wrong with a sequence of bytes. -/
inductive Utf8Reason where
  /-- no character starts with this byte -/
  | invalidStart
  /-- a byte that does not continue the character begun -/
  | invalidContinuation
  /-- the bytes end in the middle of a character -/
  | unexpectedEnd
deriving DecidableEq, Repr

/-- The wording of each reason. -/
def Utf8Reason.message : Utf8Reason → Text
  | invalidStart => "invalid start byte".toList
  | invalidContinuation => "invalid continuation byte".toList
  | unexpectedEnd => "unexpected end of data".toList

/-- Bytes that are not UTF-8: where the fault begins, its first byte, and how many bytes it
covers. -/
structure Utf8Fault where
  position : Nat
  first : UInt8
  count : Nat
  reason : Utf8Reason
deriving DecidableEq, Repr

/-- The wording of a fault. -/
def Utf8Fault.message (fault : Utf8Fault) : Text :=
  "'utf-8' codec can't decode ".toList ++
    (if fault.count = 1 then
      "byte 0x".toList ++ Text.hexadecimal 2 fault.first.toNat ++ " in position ".toList ++
        Text.ofNat fault.position
    else
      "bytes in position ".toList ++ Text.ofNat fault.position ++ "-".toList ++
        Text.ofNat (fault.position + fault.count - 1)) ++
    ": ".toList ++ fault.reason.message

namespace Utf8

/-- Whether the byte can continue a character. -/
def isContinuation (b : UInt8) : Bool := 0x80 ≤ b && b < 0xc0

/-- Whether the byte can come second after the given first one. -/
def isSecond (first b : UInt8) : Bool :=
  isContinuation b && (first != 0xe0 || 0xa0 ≤ b) && (first != 0xed || b < 0xa0) &&
    (first != 0xf0 || 0x90 ≤ b) && (first != 0xf4 || b < 0x90)

/-- The six bits that a continuation byte carries. -/
def payload (b : UInt8) : Nat := b.toNat % 64

/-- The character of a sequence of two bytes. -/
def char₂ (a b : UInt8) : Char := Char.ofNat (a.toNat % 32 * 64 + payload b)

/-- The character of a sequence of three bytes. -/
def char₃ (a b c : UInt8) : Char :=
  Char.ofNat (a.toNat % 16 * 4096 + payload b * 64 + payload c)

/-- The character of a sequence of four bytes. -/
def char₄ (a b c d : UInt8) : Char :=
  Char.ofNat (a.toNat % 8 * 262144 + payload b * 4096 + payload c * 64 + payload d)

/-- Decodes bytes, the first of which stands at the given position. -/
def decodeFrom : (position : Nat) → List UInt8 → Except Utf8Fault Text
  | _, [] => .ok []
  | position, a :: rest =>
    if a < 0x80 then do
      let text ← decodeFrom (position + 1) rest
      return Char.ofNat a.toNat :: text
    else if a < 0xc2 then .error ⟨position, a, 1, .invalidStart⟩
    else if a < 0xe0 then
      match rest with
      | [] => .error ⟨position, a, 1, .unexpectedEnd⟩
      | b :: rest =>
        if isSecond a b then do
          let text ← decodeFrom (position + 2) rest
          return char₂ a b :: text
        else .error ⟨position, a, 1, .invalidContinuation⟩
    else if a < 0xf0 then
      match rest with
      | [] => .error ⟨position, a, 1, .unexpectedEnd⟩
      | b :: rest =>
        if isSecond a b then
          match rest with
          | [] => .error ⟨position, a, 2, .unexpectedEnd⟩
          | c :: rest =>
            if isContinuation c then do
              let text ← decodeFrom (position + 3) rest
              return char₃ a b c :: text
            else .error ⟨position, a, 2, .invalidContinuation⟩
        else .error ⟨position, a, 1, .invalidContinuation⟩
    else if a < 0xf5 then
      match rest with
      | [] => .error ⟨position, a, 1, .unexpectedEnd⟩
      | b :: rest =>
        if isSecond a b then
          match rest with
          | [] => .error ⟨position, a, 2, .unexpectedEnd⟩
          | c :: rest =>
            if isContinuation c then
              match rest with
              | [] => .error ⟨position, a, 3, .unexpectedEnd⟩
              | d :: rest =>
                if isContinuation d then do
                  let text ← decodeFrom (position + 4) rest
                  return char₄ a b c d :: text
                else .error ⟨position, a, 3, .invalidContinuation⟩
            else .error ⟨position, a, 2, .invalidContinuation⟩
        else .error ⟨position, a, 1, .invalidContinuation⟩
    else .error ⟨position, a, 1, .invalidStart⟩

/-- The text that the bytes encode. -/
def decode (bytes : List UInt8) : Except Utf8Fault Text := decodeFrom 0 bytes

/-- How many bytes a text takes. -/
def size : Text → Nat
  | [] => 0
  | c :: rest => c.utf8Size + size rest

/-- The mark that may open a file to show its encoding. -/
def byteOrderMark : Char := '\ufeff'

/-- The text without one mark at its front. -/
def dropMark : Text → Text
  | [] => []
  | c :: rest => if c = byteOrderMark then rest else c :: rest

end Utf8

end IgniterLint
