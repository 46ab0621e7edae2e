/-
This file lists the members of numbers and of truth values, which count as numbers.
-/

import IgniterLint.Reflection.Member

namespace IgniterLint.Reflection.Member

/-- The members of numbers. -/
def ofNumbers : List Member :=
  [maker, operator "__repr__", operator "__hash__", operator "__getattribute__", operator "__lt__",
   operator "__le__", operator "__eq__", operator "__ne__", operator "__gt__", operator "__ge__",
   operator "__add__", operator "__radd__", operator "__sub__", operator "__rsub__",
   operator "__mul__", operator "__rmul__", operator "__mod__", operator "__rmod__",
   operator "__divmod__", operator "__rdivmod__", operator "__pow__", operator "__rpow__",
   operator "__neg__", operator "__pos__", operator "__abs__", operator "__bool__",
   operator "__invert__", operator "__lshift__", operator "__rlshift__", operator "__rshift__",
   operator "__rrshift__", operator "__and__", operator "__rand__", operator "__xor__",
   operator "__rxor__", operator "__or__", operator "__ror__", operator "__int__",
   operator "__float__", operator "__floordiv__", operator "__rfloordiv__", operator "__truediv__",
   operator "__rtruediv__", operator "__index__",
   operation "conjugate" none (lines ["Returns self, the complex conjugate of any int."]),
   operation "bit_length" (some "($self, /)") (lines [
     "Number of bits necessary to represent self in binary.", "", ">>> bin(37)", "'0b100101'",
     ">>> (37).bit_length()", "6"]),
   operation "bit_count" (some "($self, /)") (lines [
     "Number of ones in the binary representation of the absolute value of self.", "",
     "Also known as the population count.", "", ">>> bin(13)", "'0b1101'",
     ">>> (13).bit_count()", "3"]),
   operation "to_bytes" (some "($self, /, length=1, byteorder='big', *, signed=False)") (lines [
     "Return an array of bytes representing an integer.", "", "  length",
     "    Length of bytes object to use.  An OverflowError is raised if the",
     "    integer is not representable with the given number of bytes.  Default",
     "    is length 1.", "  byteorder",
     "    The byte order used to represent the integer.  If byteorder is 'big',",
     "    the most significant byte is at the beginning of the byte array.  If",
     "    byteorder is 'little', the most significant byte is at the end of the",
     "    byte array.  To request the native byte order of the host system, use",
     "    `sys.byteorder' as the byte order value.  Default is to use 'big'.", "  signed",
     "    Determines whether two's complement is used to represent the integer.",
     "    If signed is False and a negative integer is given, an OverflowError",
     "    is raised."]),
   shared "from_bytes" (some "($type, /, bytes, byteorder='big', *, signed=False)") (lines [
     "Return the integer represented by the given array of bytes.", "", "  bytes",
     "    Holds the array of bytes to convert.  The argument must either",
     "    support the buffer protocol or be an iterable object producing bytes.",
     "    Bytes and bytearray are examples of built-in objects that support the",
     "    buffer protocol.", "  byteorder",
     "    The byte order used to represent the integer.  If byteorder is 'big',",
     "    the most significant byte is at the beginning of the byte array.  If",
     "    byteorder is 'little', the most significant byte is at the end of the",
     "    byte array.  To request the native byte order of the host system, use",
     "    `sys.byteorder' as the byte order value.  Default is to use 'big'.", "  signed",
     "    Indicates whether two's complement is used to represent the integer."]),
   operation "as_integer_ratio" (some "($self, /)") (lines [
     "Return integer ratio.", "",
     "Return a pair of integers, whose ratio is exactly equal to the original int",
     "and with a positive denominator.", "", ">>> (10).as_integer_ratio()", "(10, 1)",
     ">>> (-10).as_integer_ratio()", "(-10, 1)", ">>> (0).as_integer_ratio()", "(0, 1)"]),
   operation "__trunc__" none (lines ["Truncating an Integral returns itself."]),
   operation "__floor__" none (lines ["Flooring an Integral returns itself."]),
   operation "__ceil__" none (lines ["Ceiling of an Integral returns itself."]),
   operation "__round__" (some "($self, ndigits=<unrepresentable>, /)") (lines [
     "Rounding an Integral returns itself.", "",
     "Rounding with an ndigits argument also returns an integer."]),
   operation "__getnewargs__" (some "($self, /)") none,
   operation "__format__" (some "($self, format_spec, /)") none,
   operation "__sizeof__" (some "($self, /)") (lines ["Returns size in memory, in bytes."]),
   computed "real" (lines ["the real part of a complex number"]),
   computed "imag" (lines ["the imaginary part of a complex number"]),
   computed "numerator" (lines ["the numerator of a rational number in lowest terms"]),
   computed "denominator" (lines ["the denominator of a rational number in lowest terms"]),
   note "__doc__" (lines [
     "int([x]) -> integer", "int(x, base=10) -> integer", "",
     "Convert a number or string to an integer, or return 0 if no arguments",
     "are given.  If x is a number, return x.__int__().  For floating point",
     "numbers, this truncates towards zero.", "",
     "If x is not a number or if base is given, then x must be a string,",
     "bytes, or bytearray instance representing an integer literal in the",
     "given base.  The literal can be preceded by '+' or '-' and be surrounded",
     "by whitespace.  The base defaults to 10.  Valid bases are 0 and 2-36.",
     "Base 0 means to interpret the base from the string as an integer literal.",
     ">>> int('0b100', base=0)", "4"])]

/-- The members of truth values, besides those of numbers. -/
def ofTruths : List Member :=
  [maker, operator "__repr__", operator "__and__", operator "__rand__", operator "__xor__",
   operator "__rxor__", operator "__or__", operator "__ror__",
   note "__doc__" (lines [
     "bool(x) -> bool", "", "Returns True when the argument x is true, False otherwise.",
     "The builtins True and False are the only two instances of the class bool.",
     "The class bool is a subclass of the class int, and cannot be subclassed."])]

end IgniterLint.Reflection.Member
