/-
This file holds the kinds of values that a template can come upon when it looks into its value.
Every kind has a name, a home, some measures, and a list of members. A kind inherits the members of
the kinds in its lineage, and the first of them that lists a name decides.
-/

import IgniterLint.Reflection.Member.Base
import IgniterLint.Reflection.Member.Collections
import IgniterLint.Reflection.Member.Members
import IgniterLint.Reflection.Member.Numbers
import IgniterLint.Reflection.Member.Texts
import IgniterLint.Text

namespace IgniterLint.Reflection

/-- The kinds of values. -/
inductive Kind where
  /-- what all values have in common -/
  | base
  | texts
  /-- the kinds themselves -/
  | kinds
  | numbers
  | truths
  | nothing
  | sequences
  | records
  /-- the lists of members, by name -/
  | catalogues
  /-- operations taken from a value or from a kind -/
  | boundOperations
  /-- operators taken from a value -/
  | boundOperators
  | operators
  | operations
  | computedParts
  | storedParts
  | sharedOperations
  | detachedOperations
  /-- kinds that were given a key -/
  | specialKinds
deriving DecidableEq, Repr

/-- What a kind tells about itself, besides its members. -/
structure KindSheet where
  name : String
  /-- where the kind is at home -/
  home : String
  signature : Option String
  /-- the bytes of a value, and of each item in it -/
  size : Nat
  itemSize : Nat
  /-- the properties of the kind, one bit each -/
  flags : Nat
  /-- where a value keeps its weak references and its record, if it has them -/
  referencePlace : Nat
  recordPlace : Nat
deriving DecidableEq, Repr

namespace Kind

/-- The sheet of each kind. -/
def sheet : Kind → KindSheet
  | base => ⟨"object", "builtins", some "()", 16, 0, 529664, 0, 0⟩
  | texts => ⟨"str", "builtins", none, 80, 0, 273159424, 0, 0⟩
  | kinds => ⟨"type", "builtins", none, 904, 40, 2148031744, 368, 264⟩
  | numbers => ⟨"int", "builtins", none, 24, 4, 21501184, 0, 0⟩
  | truths => ⟨"bool", "builtins", none, 32, 4, 21500160, 0, 0⟩
  | nothing => ⟨"NoneType", "builtins", none, 16, 0, 528640, 0, 0⟩
  | sequences => ⟨"tuple", "builtins", some "(iterable=(), /)", 24, 8, 71849248, 0, 0⟩
  | records => ⟨"dict", "builtins", none, 48, 0, 541611328, 0, 0⟩
  | catalogues => ⟨"mappingproxy", "builtins", none, 24, 0, 545088, 0, 0⟩
  | boundOperations => ⟨"builtin_function_or_method", "builtins", none, 56, 0, 547200, 40, 0⟩
  | boundOperators => ⟨"method-wrapper", "builtins", none, 32, 0, 545152, 0, 0⟩
  | operators => ⟨"wrapper_descriptor", "builtins", none, 56, 0, 676224, 0, 0⟩
  | operations => ⟨"method_descriptor", "builtins", none, 56, 0, 678272, 0, 0⟩
  | computedParts => ⟨"getset_descriptor", "builtins", none, 48, 0, 545152, 0, 0⟩
  | storedParts => ⟨"member_descriptor", "builtins", none, 48, 0, 545152, 0, 0⟩
  | sharedOperations => ⟨"classmethod_descriptor", "builtins", none, 56, 0, 545152, 0, 0⟩
  | detachedOperations => ⟨"staticmethod", "builtins", none, 32, 0, 546048, 0, 24⟩
  | specialKinds => ⟨"GenericAlias", "types", none, 64, 0, 548096, 40, 0⟩

/-- The name of a kind, without its home. -/
def name (which : Kind) : Text := which.sheet.name.toList

/-- The home of the kinds that need not be told by it. -/
def usualHome : String := "builtins"

/-- The name by which faults tell a kind: the home stands in front unless it is the usual one. -/
def title (which : Kind) : Text :=
  if which.sheet.home = usualHome then which.name
  else which.sheet.home.toList ++ ['.'] ++ which.name

/-- A kind as it is written in a message. -/
def written (which : Kind) : Text := "<class '".toList ++ which.title ++ "'>".toList

/-- The kind that a kind is a case of. -/
def parent : Kind → Option Kind
  | base => none
  | truths => some numbers
  | _ => some base

/-- A kind and those that it is a case of, the nearest first. -/
def lineage : Kind → List Kind
  | base => [base]
  | truths => [truths, numbers, base]
  | which => [which, base]

/-- The members that a kind lists itself. -/
def members : Kind → List Member
  | base => Member.ofBase
  | texts => Member.ofTexts
  | kinds => Member.ofKinds
  | numbers => Member.ofNumbers
  | truths => Member.ofTruths
  | nothing => Member.ofNothing
  | sequences => Member.ofSequences
  | records => Member.ofRecords
  | catalogues => Member.ofCatalogues
  | boundOperations => Member.ofBoundOperations
  | boundOperators => Member.ofBoundOperators
  | operators => Member.ofOperators
  | operations => Member.ofOperations
  | computedParts => Member.ofComputedParts
  | storedParts => Member.ofStoredParts
  | sharedOperations => Member.ofSharedOperations
  | detachedOperations => Member.ofDetachedOperations
  | specialKinds => Member.ofSpecialKinds

/-- The member that a kind lists itself under a name. -/
def own? (name : Text) (which : Kind) : Option Member :=
  which.members.find? fun member => member.name.toList == name

/-- The member of a name, from the first kind of the lineage that lists it, with that kind. -/
def member? (name : Text) (which : Kind) : Option (Kind × Member) :=
  which.lineage.findSome? fun owner => (owner.own? name).map fun member => (owner, member)

/-- The name of the member that turns a kind with a key into a special kind. -/
def keyedMember : Text := "__class_getitem__".toList

/-- Whether a kind can be given a key. The kind of kinds can, without a member for it. -/
def takesKey (which : Kind) : Bool := which == kinds || (which.member? keyedMember).isSome

/-- The description of the kind of kinds, whose list has no place for one. -/
def kindsDescription : String :=
  "type(object) -> the object's type\ntype(name, bases, dict, **kwds) -> a new type"

end Kind

end IgniterLint.Reflection
