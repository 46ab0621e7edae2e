/-
This file holds registries, which say whether an application has a model of a given name. A caller
may bring one of any kind. The two kinds that the library has compare names in one normal form:
without the blanks at their ends, with forward slashes, and in lower case. One of them knows
nothing, and then every name is unknown to it; the other lists the models there are, and then a name
is found or missing.
-/

import IgniterLint.Text.Blank
import IgniterLint.Text.LowerCase

namespace IgniterLint

/-- The normal form of a model's name. -/
def normalizeModelName (name : Text) : Text :=
  Text.lower (name.trim.map fun c => if c = '\\' then '/' else c)

/-- How a name fares with a registry. -/
inductive LookupStatus where
  | found
  | missing
  | unknown
deriving DecidableEq, Repr

/-- The word for a status. -/
def LookupStatus.word : LookupStatus → Text
  | found => "found".toList
  | missing => "missing".toList
  | unknown => "unknown".toList

/-- A registry's answer about a name. -/
structure Lookup where
  status : LookupStatus
  name : Text
deriving DecidableEq, Repr

/-- Only a model that was found is known to exist. -/
def Lookup.exists (answer : Lookup) : Bool := answer.status == .found

/-- Whatever answers about names of models. -/
structure Registry where
  lookup : Text → Lookup

namespace Registry

/-- A registry that tells names by their normal form, and answers with it. -/
def byNormalForm (status : Text → LookupStatus) : Registry where
  lookup name := ⟨status (normalizeModelName name), normalizeModelName name⟩

/-- A registry that has not looked. -/
def unaware : Registry := byNormalForm fun _ => .unknown

/-- A registry that lists the models there are. -/
def listing (models : List Text) : Registry :=
  byNormalForm fun name =>
    if (models.map normalizeModelName).contains name then .found else .missing

end Registry

end IgniterLint
