/-
This file names what can be wrong with a message template: its braces, the field it asks for, the
part of that field's value, or the layout it asks the field to be written in.
-/

import IgniterLint.Reflection.Fault

namespace IgniterLint

open Reflection (Kind ReflectionFault)

/-- Why a template could not be filled. -/
inductive TemplateFault where
  /-- a closing brace that closes nothing and is not doubled -/
  | loneClosing
  /-- an opening brace at the very end -/
  | loneOpening
  /-- an opening brace inside the name of a field -/
  | openingInName
  /-- a field that the template does not close -/
  | unclosedField
  /-- nothing behind the conversion mark -/
  | missingConversion
  /-- something other than a layout behind a conversion -/
  | trailingConversion
  /-- a layout that the template does not close -/
  | unclosedLayout
  /-- layouts nested inside layouts of layouts -/
  | tooDeep
  /-- a field asked for by number; no field has one -/
  | positional (index : Nat)
  /-- a number too large to count with -/
  | numberTooLarge
  /-- a field of another name -/
  | unknownField (name : Text)
  /-- a step into a value without a name or a key -/
  | emptyStep
  /-- something other than a further step behind a closing bracket -/
  | strayAfterKey
  /-- a step that the value refuses -/
  | step (cause : ReflectionFault)
  /-- a layout for a value of a kind that takes none -/
  | layoutRefused (owner : Kind)
  /-- a conversion that does not exist -/
  | unknownConversion (letter : Char)
  /-- a layout that goes on after its last letter -/
  | malformedLayout (layout : Text) (owner : Kind)
  /-- both separators of digits at once -/
  | twoSeparators
  /-- a separator of digits with a letter that has none -/
  | separatorRefused (separator letter : Char)
  /-- a precision without its number -/
  | missingPrecision
  /-- a letter that is none of those for the kind of value -/
  | unknownLetter (letter : Char) (owner : Kind)
  /-- a sign, which belongs to numbers -/
  | signRefused
  /-- a blank in the place of a sign -/
  | blankSignRefused
  /-- the treatment of negative zero, which belongs to numbers -/
  | negativeZeroRefused
  /-- the alternate form, which belongs to numbers -/
  | alternateRefused
  /-- padding behind the sign, which belongs to numbers -/
  | signPaddingRefused
  /-- a precision for a whole number -/
  | precisionRefused
  /-- the treatment of negative zero for a whole number -/
  | wholeZeroRefused
  /-- a sign for a number written as a character -/
  | characterSignRefused
  /-- the alternate form for a number written as a character -/
  | characterAlternateRefused
  /-- a number that is the code of no character -/
  | noCharacter
  /-- a precision too large to work with -/
  | precisionTooLarge
  /-- a field wider than memory holds -/
  | noMemory
deriving DecidableEq, Repr

namespace TemplateFault

/-- A letter as the wordings show it: by its code unless `plain` holds of it. -/
def showLetter (plain : Char → Bool) (letter : Char) : Text :=
  if plain letter then [letter] else "\\x".toList ++ Nat.toDigits 16 letter.toNat

/-- A letter with a mark on each side. -/
def showMarked (letter : Char) : Text :=
  "'".toList ++ showLetter (fun c => 32 < c.toNat && c.toNat < 128) letter ++ "'".toList

/-- The wording of each fault. -/
def message : TemplateFault → Text
  | loneClosing => "Single '\x7d' encountered in format string".toList
  | loneOpening => "Single '\x7b' encountered in format string".toList
  | openingInName => "unexpected '\x7b' in field name".toList
  | unclosedField => "expected '\x7d' before end of string".toList
  | missingConversion => "end of string while looking for conversion specifier".toList
  | trailingConversion => "expected ':' after conversion specifier".toList
  | unclosedLayout => "unmatched '\x7b' in format spec".toList
  | tooDeep => "Max string recursion exceeded".toList
  | positional index =>
    "Replacement index ".toList ++ Text.ofNat index ++
      " out of range for positional args tuple".toList
  | numberTooLarge => "Too many decimal digits in format string".toList
  | unknownField name => name.quoted
  | emptyStep => "Empty attribute in format string".toList
  | strayAfterKey => "Only '.' or '[' may follow ']' in format field specifier".toList
  | step cause => cause.message
  | layoutRefused owner =>
    "unsupported format string passed to ".toList ++ owner.title ++ ".__format__".toList
  | unknownConversion letter =>
    "Unknown conversion specifier ".toList ++
      showLetter (fun c => 32 < c.toNat && c.toNat < 127) letter
  | malformedLayout layout owner =>
    "Invalid format specifier '".toList ++ layout ++ "' for object of type '".toList ++
      owner.title ++ "'".toList
  | twoSeparators => "Cannot specify both ',' and '_'.".toList
  | separatorRefused separator letter =>
    "Cannot specify '".toList ++ [separator] ++ "' with ".toList ++ showMarked letter ++ ".".toList
  | missingPrecision => "Format specifier missing precision".toList
  | unknownLetter letter owner =>
    "Unknown format code ".toList ++ showMarked letter ++ " for object of type '".toList ++
      owner.title ++ "'".toList
  | signRefused => "Sign not allowed in string format specifier".toList
  | blankSignRefused => "Space not allowed in string format specifier".toList
  | negativeZeroRefused =>
    "Negative zero coercion (z) not allowed in string format specifier".toList
  | alternateRefused => "Alternate form (#) not allowed in string format specifier".toList
  | signPaddingRefused => "'=' alignment not allowed in string format specifier".toList
  | precisionRefused => "Precision not allowed in integer format specifier".toList
  | wholeZeroRefused =>
    "Negative zero coercion (z) not allowed in integer format specifier".toList
  | characterSignRefused => "Sign not allowed with integer format specifier 'c'".toList
  | characterAlternateRefused =>
    "Alternate form (#) not allowed with integer format specifier 'c'".toList
  | noCharacter => "%c arg not in range(0x110000)".toList
  | precisionTooLarge => "precision too big".toList
  | noMemory => []

end TemplateFault

end IgniterLint
