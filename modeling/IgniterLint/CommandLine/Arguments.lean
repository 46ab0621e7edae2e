/-
This file reads the arguments of the command line. There are two flags, each with a short and a long
spelling, and one list of paths. Long spellings may be cut short, short ones may be run together,
and a double dash makes everything behind it a path. The paths have to stand together: those behind
a flag that follows other paths are left over.

Every argument is first sorted by its looks alone, which settles what is a flag; the sorted
arguments are then taken in order. Help ends the reading where it stands. What is left over, or
missing, is a fault at the end.
-/

import IgniterLint.Text.Digit
import IgniterLint.Text.Quoted

namespace IgniterLint.CommandLine

/-- The flags. -/
inductive Flag where
  | help
  | verbose
deriving DecidableEq, Repr

namespace Flag

/-- The letter of the short spelling. -/
def letter : Flag → Char
  | help => 'h'
  | verbose => 'v'

/-- The long spelling. -/
def long : Flag → Text
  | help => "--help".toList
  | verbose => "--verbose".toList

/-- The flags, in the order in which they are listed. -/
def all : List Flag := [help, verbose]

/-- Both spellings, as faults name a flag. -/
def title (flag : Flag) : Text := ['-', flag.letter] ++ "/".toList ++ flag.long

/-- The flag of a letter. -/
def ofLetter? (c : Char) : Option Flag := all.find? fun flag => flag.letter == c

end Flag

/-- What an argument looks like. -/
inductive Word where
  /-- the double dash that ends the flags -/
  | separator
  | path (text : Text)
  /-- a flag by its letter, with what was written right behind it or behind an equals sign -/
  | short (flag : Flag) (attached : Option Text)
  /-- a flag by its long spelling, with what was written behind an equals sign -/
  | long (flag : Flag) (attached : Option Text)
  /-- something that looks like a flag and is none -/
  | unknown (text : Text)
deriving DecidableEq, Repr

/-- What is wrong with the arguments. -/
inductive ArgumentFault where
  /-- an argument that several flags begin with -/
  | ambiguous (text : Text) (candidates : List Flag)
  /-- something written to a flag that takes nothing -/
  | refusesValue (flag : Flag) (value : Text)
  /-- no path at all -/
  | noPaths
  /-- arguments that nothing takes -/
  | leftOver (texts : List Text)
deriving DecidableEq, Repr

/-- The wording of each fault. -/
def ArgumentFault.message : ArgumentFault → Text
  | ambiguous text candidates =>
    "ambiguous option: ".toList ++ text ++ " could match ".toList ++
      Text.joinWith ", ".toList (candidates.map Flag.long)
  | refusesValue flag value =>
    "argument ".toList ++ flag.title ++ ": ignored explicit argument ".toList ++ value.quoted
  | noPaths => "the following arguments are required: paths".toList
  | leftOver texts => "unrecognized arguments: ".toList ++ Text.joinWith " ".toList texts

/-! ### Sorting arguments by their looks -/

/-- A text cut at its first equals sign. -/
def splitValue (text : Text) : Text × Option Text :=
  match text.dropWhile (· != '=') with
  | [] => (text, none)
  | _ :: value => (text.takeWhile (· != '='), some value)

/-- Whether a text is one or more decimal digits. A line feed at its end is not counted. -/
def isDigits (text : Text) : Bool :=
  let digits := if text.getLast? = some '\n' then text.dropLast else text
  !digits.isEmpty && digits.all Text.isDecimal

/-- Whether what stands behind a dash makes a negative number, with or without a point. -/
def isNumber (text : Text) : Bool :=
  isDigits text ||
    match text.dropWhile Text.isDecimal with
    | '.' :: decimals => isDigits decimals
    | _ => false

/-- Sorts an argument that starts with two dashes and more. The name may be cut short. -/
def sortLong (text : Text) : Except ArgumentFault Word :=
  let (name, value) := splitValue text
  match Flag.all.filter fun flag => flag.long == name with
  | flag :: _ => .ok (.long flag value)
  | [] =>
    match Flag.all.filter fun flag => name.isPrefixOf flag.long with
    | [] => .ok (if text.contains ' ' then .path text else .unknown text)
    | [flag] => .ok (.long flag value)
    | candidates => .error (.ambiguous text candidates)

/-- What is attached to a letter: all that stands behind it, without an equals sign in front. An
equals sign attaches even the empty text. -/
def attachedTo : Text → Option Text
  | [] => none
  | c :: rest => some (if c = '=' then rest else c :: rest)

/-- Sorts an argument of one dash, a letter and perhaps more. -/
def sortShort (c : Char) (rest : Text) : Word :=
  match Flag.ofLetter? c with
  | some flag => .short flag (attachedTo rest)
  | none =>
    if isNumber (c :: rest) || (c :: rest).contains ' ' then .path ('-' :: c :: rest)
    else .unknown ('-' :: c :: rest)

/-- Sorts an argument that stands before any separator. -/
def sortOne (text : Text) : Except ArgumentFault Word :=
  match text with
  | '-' :: '-' :: [] => .ok .separator
  | '-' :: '-' :: _ => sortLong text
  | '-' :: c :: rest => .ok (sortShort c rest)
  | _ => .ok (.path text)

/-- Sorts all arguments. Behind a separator everything is a path. -/
def sort : List Text → Except ArgumentFault (List Word)
  | [] => .ok []
  | text :: rest => do
    match ← sortOne text with
    | .separator => return .separator :: rest.map .path
    | word => return word :: (← sort rest)

/-! ### Taking them in order -/

/-- What the arguments ask for. -/
inductive Request where
  | help
  | check (verbose : Bool) (paths : List Text)
deriving DecidableEq, Repr

/-- The flags that letters run together name, behind a first flag. Where a letter belongs to no
flag, it and all behind it count as written to the flag before. -/
def cluster (flag : Flag) : Text → Except ArgumentFault (List Flag)
  | [] => .ok [flag]
  | c :: rest =>
    match Flag.ofLetter? c with
    | none => .error (.refusesValue flag (c :: rest))
    | some next => do
      let flags ← cluster next rest
      return flag :: flags

/-- The flags that a sorted argument names. What is attached to a letter are further letters, and it
cannot be empty; nothing can be attached to a long spelling. -/
def flagsOf : Word → Except ArgumentFault (List Flag)
  | .short flag none | .long flag none => .ok [flag]
  | .short flag (some []) => .error (.refusesValue flag [])
  | .short flag (some letters) => cluster flag letters
  | .long flag (some value) => .error (.refusesValue flag value)
  | _ => .ok []

/-- The argument as written, for one that is no flag. -/
def Word.written : Word → Text
  | separator => "--".toList
  | path text | unknown text => text
  | short flag _ => ['-', flag.letter]
  | long flag _ => flag.long

/-- How far the reading has come. -/
structure Progress where
  verbose : Bool
  /-- the paths, once a run of them was taken -/
  paths : Option (List Text)
  /-- the run of paths and separators that is being read, the latest first -/
  run : List Word
  /-- what nothing takes -/
  leftOver : List Text
deriving DecidableEq, Repr

namespace Progress

/-- Nothing read. -/
def start : Progress := ⟨false, none, [], []⟩

/-- Whether a word is a path. -/
def isPath : Word → Bool
  | .path _ => true
  | _ => false

/-- Ends the run that is being read. The first run with a path in it gives the paths, without its
separator; any other is left over. -/
def closeRun (progress : Progress) : Progress :=
  let words := progress.run.reverse
  if progress.paths.isNone && words.any isPath then
    { progress with
      paths := some ((words.filter fun word => word != .separator).map Word.written)
      run := [] }
  else { progress with leftOver := progress.leftOver ++ words.map Word.written, run := [] }

end Progress

/-- Takes the sorted arguments in order. Help ends the reading where it stands. -/
def take (progress : Progress) : List Word → Except ArgumentFault Request
  | [] =>
    let progress := progress.closeRun
    match progress.paths with
    | none => .error .noPaths
    | some paths =>
      if progress.leftOver.isEmpty then .ok (.check progress.verbose paths)
      else .error (.leftOver progress.leftOver)
  | .separator :: rest => take { progress with run := .separator :: progress.run } rest
  | .path text :: rest => take { progress with run := .path text :: progress.run } rest
  | .unknown text :: rest =>
    let progress := progress.closeRun
    take { progress with leftOver := progress.leftOver ++ [text] } rest
  | word :: rest => do
    let flags ← flagsOf word
    if flags.contains .help then return .help
    else
      let progress := progress.closeRun
      take { progress with verbose := progress.verbose || flags.contains .verbose } rest

/-- Reads the arguments. -/
def parse (arguments : List Text) : Except ArgumentFault Request := do
  take .start (← sort arguments)

end IgniterLint.CommandLine
