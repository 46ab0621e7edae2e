/-
This file says what part a file plays in an application, which shows in its path. A path that
mentions both directories plays both parts, and each part's rules then apply.
-/

import IgniterLint.Text

namespace IgniterLint

/-- The parts a file may play. -/
structure Roles where
  controller : Bool
  model : Bool
deriving DecidableEq, Repr

namespace Roles

/-- No part at all. -/
def none : Roles := ⟨false, false⟩

/-- The part of a controller alone. -/
def controllerOnly : Roles := ⟨true, false⟩

/-- The part of a model alone. -/
def modelOnly : Roles := ⟨false, true⟩

/-- The directory that controllers live in. -/
def controllersFolder : Text := "controllers".toList

/-- The directory that models live in. -/
def modelsFolder : Text := "models".toList

/-- How the name of a source file ends. -/
def sourceEnding : Text := ".php".toList

/-- The parts of the file at a path. Only source files play any. -/
def ofPath (path : Text) : Roles :=
  if sourceEnding.isSuffixOf path then
    ⟨Text.occursIn controllersFolder path, Text.occursIn modelsFolder path⟩
  else none

/-- Whether the file plays any part. -/
def isAny (roles : Roles) : Bool := roles.controller || roles.model

/-- Whether the file plays every wanted part. -/
def includes (roles wanted : Roles) : Bool :=
  (!wanted.controller || roles.controller) && (!wanted.model || roles.model)

/-- The parts packed into a number: one for a controller, two for a model. -/
def toNat (roles : Roles) : Nat := roles.controller.toNat + 2 * roles.model.toNat

/-- The parts that a packed number stands for. -/
def ofNat (n : Nat) : Roles := ⟨n % 2 == 1, n / 2 % 2 == 1⟩

/-- All combinations of parts, in the order of their packed numbers. -/
def all : List Roles := [none, controllerOnly, modelOnly, ⟨true, true⟩]

/-- The name of a combination of parts. -/
def name : Roles → Text
  | ⟨false, false⟩ => "Classification.UNCLASSIFIED".toList
  | ⟨true, false⟩ => "Classification.CONTROLLER".toList
  | ⟨false, true⟩ => "Classification.MODEL".toList
  | ⟨true, true⟩ => "Classification.CONTROLLER|MODEL".toList

end Roles

end IgniterLint
