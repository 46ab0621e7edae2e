/-
This file bounds the numerals that are shown to people. A numeral of more digits than the limit is
refused and the refusal says so, wherever a number of any size may have to be written out.
-/

import IgniterLint.Text

namespace IgniterLint

/-- Why a number is not written out. -/
inductive NumeralFault where
  /-- more digits than the limit -/
  | tooLong
deriving DecidableEq, Repr

namespace Text

/-- The most digits of a numeral. A sign does not count. -/
def numeralLimit : Nat := 4300

/-- Whether the numeral of a natural number stays within the limit. -/
def isShort (n : Nat) : Bool := (ofNat n).length ≤ numeralLimit

/-- The numeral of an integer, unless it is too long. -/
def numeral (n : Int) : Except NumeralFault Text :=
  if isShort n.natAbs then .ok (ofInt n) else .error .tooLong

end Text

/-- The wording of the fault. -/
def NumeralFault.message : NumeralFault → Text
  | tooLong =>
    "Exceeds the limit (".toList ++ Text.ofNat Text.numeralLimit ++
      " digits) for integer string conversion; ".toList ++
      "use sys.set_int_max_str_digits() to increase the limit".toList

end IgniterLint
