/-
This file names the ways in which files cannot be found or read: the system does not find or does
not open them, their path cannot be handed over, their bytes are not text, or the search for them
goes too deep.
-/

import IgniterLint.Fault
import IgniterLint.File.Path
import IgniterLint.Text.Utf8

namespace IgniterLint

/-- What the system says about a path. -/
inductive SystemFault where
  | missing
  | notAFolder
  | isAFolder
  | nameTooLong
  /-- any other fault, with its number and wording -/
  | other (number : Nat) (wording : Text)
deriving DecidableEq, Repr

namespace SystemFault

/-- The number of the fault. -/
def number : SystemFault → Nat
  | missing => 2
  | notAFolder => 20
  | isAFolder => 21
  | nameTooLong => 36
  | other number _ => number

/-- The wording of the fault. -/
def message : SystemFault → Text
  | missing => "No such file or directory".toList
  | notAFolder => "Not a directory".toList
  | isAFolder => "Is a directory".toList
  | nameTooLong => "File name too long".toList
  | other _ wording => wording

end SystemFault

/-- Why a file could not be found or read. -/
inductive FileFault where
  | system (cause : SystemFault) (path : Path)
  | encoding (cause : Utf8Fault)
  | nullInPath
  /-- the search went through more folders than it can -/
  | tooDeep
deriving DecidableEq, Repr

/-- The wording of a fault; the system's own comes with its number and the path. -/
def FileFault.message : FileFault → Text
  | system cause path =>
    "[Errno ".toList ++ Text.ofNat cause.number ++ "] ".toList ++ cause.message ++ ": ".toList ++
      path.render.quoted
  | encoding cause => cause.message
  | nullInPath => "embedded null byte".toList
  | tooDeep => "maximum recursion depth exceeded".toList

/-- Whether the fault concerns its file alone. Any other stops a whole run. -/
def FileFault.concernsFile : FileFault → Bool
  | system _ _ | encoding _ => true
  | nullInPath | tooDeep => false

/-- Why a run over files came to nothing. -/
inductive RunFault where
  | check (cause : Fault)
  | file (cause : FileFault)
deriving DecidableEq, Repr

/-- The wording of a fault. -/
def RunFault.message : RunFault → Text
  | check cause => cause.message
  | file cause => cause.message

end IgniterLint
