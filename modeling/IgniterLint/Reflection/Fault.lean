/-
This file names what can go wrong when a template looks into a value: there is no such part, no such
item, or nothing to be asked for items at all.
-/

import IgniterLint.Reflection.Kind
import IgniterLint.Text.Quoted

namespace IgniterLint.Reflection

/-- What a template writes between square brackets. -/
inductive Key where
  | number (n : Nat)
  | text (content : Text)
deriving DecidableEq, Repr

/-- A key as it is told in a message. -/
def Key.quoted : Key → Text
  | number n => Text.ofNat n
  | text content => content.quoted

/-- Why a part or an item could not be had. -/
inductive ReflectionFault where
  /-- a part that values of the kind do not have -/
  | noPart (owner : Kind) (name : Text)
  /-- a part that the kind itself does not have -/
  | noPartOfKind (owner : Kind) (name : Text)
  /-- a part that kinds may have and this one was not given -/
  | notGiven (name : Text)
  /-- a text as the key of a value that counts its items -/
  | keyRefused (owner : Kind)
  /-- a number behind the last item -/
  | noItem (owner : Kind)
  /-- a key under which there is nothing -/
  | unknownKey (key : Key)
  /-- a key for a value that holds no items -/
  | noItems (owner : Kind)
  /-- a key for a kind that takes none -/
  | noItemsOfKind (owner : Kind)
  /-- a second key for a kind that was given one -/
  | secondKey (written : Text)
deriving DecidableEq, Repr

namespace ReflectionFault

/-- The wording of each fault. -/
def message : ReflectionFault → Text
  | noPart owner name =>
    "'".toList ++ owner.title ++ "' object has no attribute '".toList ++ name ++ "'".toList
  | noPartOfKind owner name =>
    "type object '".toList ++ owner.title ++ "' has no attribute '".toList ++ name ++ "'".toList
  | notGiven name => name
  | keyRefused .texts => "string indices must be integers, not 'str'".toList
  | keyRefused owner => owner.title ++ " indices must be integers or slices, not str".toList
  | noItem .texts => "string index out of range".toList
  | noItem owner => owner.title ++ " index out of range".toList
  | unknownKey key => key.quoted
  | noItems owner => "'".toList ++ owner.title ++ "' object is not subscriptable".toList
  | noItemsOfKind owner => "type '".toList ++ owner.title ++ "' is not subscriptable".toList
  | secondKey written => written ++ " is not a generic class".toList

end ReflectionFault

end IgniterLint.Reflection
