/-
This file holds what a field of a template can stand for. That is a text in nearly every template,
but a field may look into its text: at one of its characters, at its kind, at the members of that
kind, and from there at whatever those have to tell.

A part is looked up by name. The kind of the value is asked first, and what its member gives depends
on the sort of the member: parts are worked out, operators and operations come bound to the value.
A kind is asked as a value for its parts, then as a kind for its own members, and then as a value
for the rest.
-/

import IgniterLint.Reflection.Fault

namespace IgniterLint.Reflection

/-- What a field of a template stands for. -/
inductive Value where
  | text (content : Text)
  | number (n : Nat)
  | truth (holds : Bool)
  | nothing
  | kind (which : Kind)
  /-- a sequence of kinds -/
  | kinds (list : List Kind)
  /-- a sequence of keys -/
  | keys (list : List Key)
  /-- the members of a kind, by name -/
  | catalogue (owner : Kind)
  /-- a member on its own, with the kind that lists it -/
  | member (owner : Kind) (which : Member)
  /-- an operator or an operation taken from a value -/
  | bound (owner : Kind) (which : Member) (holder : Value)
  /-- a detached operation as its kind lists it -/
  | detached (owner : Kind) (which : Member)
  /-- a record with nothing in it -/
  | record
  /-- a kind that was given a key -/
  | special (origin : Kind) (key : Key)
deriving DecidableEq, Repr

namespace Value

/-- The kind of a value. -/
def kindOf : Value → Kind
  | text _ => .texts
  | number _ => .numbers
  | truth _ => .truths
  | nothing => .nothing
  | kind _ => .kinds
  | kinds _ | keys _ => .sequences
  | catalogue _ => .catalogues
  | member _ which =>
    match which.sort with
    | .operator => .operators
    | .operation => .operations
    | .shared => .sharedOperations
    | .computed => .computedParts
    | .stored => .storedParts
    | .maker | .detached | .note => .base
  | bound _ which _ => if which.sort = .operator then .boundOperators else .boundOperations
  | detached _ _ => .detachedOperations
  | record => .records
  | special _ _ => .specialKinds

/-- The kind that a value stands for when it holds a member: itself if it is one. -/
def asHolder : Value → Kind
  | kind which => which
  | value => value.kindOf

/-- A text, or nothing. -/
def ofNote : Option String → Value
  | some content => text content.toList
  | none => nothing

/-- A member as the catalogue of its kind shows it. -/
def ofEntry (owner : Kind) (which : Member) : Value :=
  match which.sort with
  | .maker => bound owner which (kind owner)
  | .detached => detached owner which
  | .note => ofNote which.description
  | _ => member owner which

/-! ### Values as text -/

/-- Where a value lies in memory. No two runs agree on it, so one place stands for all. -/
def address : Text := "0x7f0000000000".toList

/-- Texts in round brackets, with the comma that tells one alone from a text in brackets. -/
def inBrackets : List Text → Text
  | [] => "()".toList
  | [only] => "(".toList ++ only ++ ",)".toList
  | several => "(".toList ++ Text.joinWith ", ".toList several ++ ")".toList

/-- A member on its own, by the word for its sort. -/
def describeMember (word : String) (owner : Kind) (which : Member) : Text :=
  "<".toList ++ word.toList ++ " '".toList ++ which.name.toList ++ "' of '".toList ++
    owner.title ++ "' objects>".toList

/-- The word for the sort of a member on its own. -/
def sortWord : MemberSort → String
  | .operator => "slot wrapper"
  | .operation | .shared => "method"
  | .stored => "member"
  | _ => "attribute"

/-- A bound member, by what it is bound to. -/
def describeBound (which : Member) (holder : Kind) : Text :=
  let name := which.name.toList
  if which.sort = .operator then
    "<method-wrapper '".toList ++ name ++ "' of ".toList ++ holder.title ++ " object at ".toList ++
      address ++ ">".toList
  else
    "<built-in method ".toList ++ name ++ " of ".toList ++ holder.title ++ " object at ".toList ++
      address ++ ">".toList

/-- A detached operation as its kind lists it. -/
def describeDetached (which : Member) : Text :=
  "<staticmethod(".toList ++ describeBound which .kinds ++ ")>".toList

/-- An entry of a catalogue, with its name in front. -/
def describeEntry (owner : Kind) (which : Member) : Text :=
  let content := match which.sort, which.description with
    | .maker, _ => describeBound which .kinds
    | .detached, _ => describeDetached which
    | .note, some content => Text.quoted content.toList
    | .note, none => "None".toList
    | _, _ => describeMember (sortWord which.sort) owner which
  Text.quoted which.name.toList ++ ": ".toList ++ content

/-- The entries of the catalogue of a kind, in braces. -/
def describeCatalogue (owner : Kind) : Text :=
  "\x7b".toList ++ Text.joinWith ", ".toList (owner.members.map (describeEntry owner)) ++
    "\x7d".toList

/-- A value as text that tells what it is: a text stands between quotation marks. -/
def quoted : Value → Text
  | text content => content.quoted
  | number n => Text.ofNat n
  | truth holds => if holds then "True".toList else "False".toList
  | nothing => "None".toList
  | kind which => which.written
  | kinds list => inBrackets (list.map Kind.written)
  | keys list => inBrackets (list.map Key.quoted)
  | catalogue owner => "mappingproxy(".toList ++ describeCatalogue owner ++ ")".toList
  | member owner which => describeMember (sortWord which.sort) owner which
  | bound _ which holder => describeBound which holder.kindOf
  | detached _ which => describeDetached which
  | record => "\x7b\x7d".toList
  | special origin key => origin.name ++ "[".toList ++ key.quoted ++ "]".toList

/-- A value as text. Texts and catalogues are told plainly. -/
def written : Value → Text
  | text content => content
  | catalogue owner => describeCatalogue owner
  | value => value.quoted

/-! ### Parts -/

/-- A part of a kind that is worked out. -/
def partOfKind (name : String) (which : Kind) : Except ReflectionFault Value :=
  match name with
  | "__name__" | "__qualname__" => .ok (text which.name)
  | "__module__" => .ok (text which.sheet.home.toList)
  | "__base__" => .ok ((which.parent.map kind).getD nothing)
  | "__bases__" => .ok (kinds which.parent.toList)
  | "__mro__" => .ok (kinds which.lineage)
  | "__dict__" => .ok (catalogue which)
  | "__doc__" =>
    .ok (if which = .kinds then text Kind.kindsDescription.toList
      else ((which.own? name.toList).map (ofEntry which)).getD nothing)
  | "__text_signature__" => .ok (ofNote which.sheet.signature)
  | "__basicsize__" => .ok (number which.sheet.size)
  | "__itemsize__" => .ok (number which.sheet.itemSize)
  | "__flags__" => .ok (number which.sheet.flags)
  | "__weakrefoffset__" => .ok (number which.sheet.referencePlace)
  | "__dictoffset__" => .ok (number which.sheet.recordPlace)
  | "__abstractmethods__" => .error (.notGiven name.toList)
  | _ => .error (.noPartOfKind which name.toList)

/-- A part of a number that is worked out. -/
def partOfNumber (name : String) (n : Nat) : Value :=
  match name with
  | "imag" => number 0
  | "denominator" => number 1
  | _ => number n

/-- A part of a member that is worked out, where `holder` is the kind that its full name tells. -/
def partOfMember (name : String) (owner holder : Kind) (which : Member) : Value :=
  match name with
  | "__name__" => text which.name.toList
  | "__qualname__" => text (holder.name ++ ['.'] ++ which.name.toList)
  | "__doc__" => ofNote which.description
  | "__text_signature__" => ofNote which.signature
  | "__objclass__" => kind owner
  | _ => nothing

/-- A part of a special kind that is worked out. -/
def partOfSpecial (name : String) (origin : Kind) (key : Key) : Value :=
  match name with
  | "__origin__" => kind origin
  | "__args__" => keys [key]
  | "__parameters__" => keys []
  | "__unpacked__" => truth false
  | _ => nothing

/-- A part of a detached operation that is worked out. -/
def partOfDetached (name : String) (owner : Kind) (which : Member) : Value :=
  match name with
  | "__isabstractmethod__" => truth false
  | "__dict__" => record
  | _ => bound owner which (kind owner)

/-- A part that is worked out from the value. -/
def workOut (name : String) (value : Value) : Except ReflectionFault Value :=
  if name = "__class__" then .ok (kind value.kindOf)
  else
    match value with
    | kind which => partOfKind name which
    | number n => .ok (partOfNumber name n)
    | truth holds => .ok (partOfNumber name holds.toNat)
    | member owner which => .ok (partOfMember name owner owner which)
    | bound owner which holder =>
      if name = "__self__" then .ok (if which.sort = .detached then nothing else holder)
      else
        let titled := if which.sort = .operator then owner else holder.asHolder
        .ok (partOfMember name owner titled which)
    | special origin key => .ok (partOfSpecial name origin key)
    | detached owner which => .ok (partOfDetached name owner which)
    | _ => .ok nothing

/-- What a member gives when it is taken from a value. -/
def fromValue (value : Value) (owner : Kind) (which : Member) : Except ReflectionFault Value :=
  match which.sort with
  | .operator | .operation => .ok (bound owner which value)
  | .shared => .ok (bound owner which (kind value.kindOf))
  | .maker | .detached => .ok (bound owner which (kind owner))
  | .computed | .stored => workOut which.name value
  | .note => .ok (ofNote which.description)

/-- What a member gives when it is taken from a kind. -/
def fromKind (taken owner : Kind) (which : Member) : Value :=
  match which.sort with
  | .shared => bound owner which (kind taken)
  | .maker | .detached => bound owner which (kind owner)
  | .note => ofNote which.description
  | _ => member owner which

/-- Whether a member is a part, worked out or kept. -/
def isPart (which : Member) : Bool := which.sort == .computed || which.sort == .stored

/-- The part of a kind under a name. -/
def kindPart (name : Text) (which : Kind) : Except ReflectionFault Value :=
  match Kind.kinds.member? name, which.member? name with
  | some (owner, found), own =>
    if isPart found then fromValue (kind which) owner found
    else
      match own with
      | some (owner, found) => .ok (fromKind which owner found)
      | none => fromValue (kind which) owner found
  | none, some (owner, found) => .ok (fromKind which owner found)
  | none, none => .error (.noPartOfKind which name)

/-- The part of a value under a name that the kind of the value lists. -/
def listedPart (name : Text) (value : Value) : Except ReflectionFault Value :=
  match value.kindOf.member? name with
  | some (owner, found) => fromValue value owner found
  | none => .error (.noPart value.kindOf name)

/-- The names under which a special kind answers for itself and not for the kind it came from. -/
def specialNames : List String :=
  ["__class__", "__origin__", "__args__", "__unpacked__", "__parameters__",
   "__typing_unpacked_tuple_args__", "__mro_entries__", "__reduce_ex__", "__reduce__", "__copy__",
   "__deepcopy__"]

/-- The part of a value under a name. -/
def part (name : Text) (value : Value) : Except ReflectionFault Value :=
  match value with
  | kind which => kindPart name which
  | special origin _ =>
    if specialNames.any fun known => known.toList == name then listedPart name value
    else kindPart name origin
  | _ => listedPart name value

/-! ### Items -/

/-- The item of a sequence at a number. -/
def itemAt (owner : Kind) (items : List Value) (n : Nat) : Except ReflectionFault Value :=
  match items[n]? with
  | some item => .ok item
  | none => .error (.noItem owner)

/-- A key as a value. -/
def ofKey : Key → Value
  | .number n => number n
  | .text content => text content

/-- The item of a value under a key. Texts and sequences count their items, catalogues name them,
and some kinds become special by a key. -/
def item (key : Key) (value : Value) : Except ReflectionFault Value :=
  match value, key with
  | text content, .number n =>
    match content[n]? with
    | some c => .ok (text [c])
    | none => .error (.noItem .texts)
  | kinds list, .number n => itemAt .sequences (list.map kind) n
  | keys list, .number n => itemAt .sequences (list.map ofKey) n
  | text _, .text _ | kinds _, .text _ | keys _, .text _ => .error (.keyRefused value.kindOf)
  | catalogue owner, .text name =>
    match owner.own? name with
    | some which => .ok (ofEntry owner which)
    | none => .error (.unknownKey key)
  | catalogue _, .number _ | record, _ => .error (.unknownKey key)
  | kind which, key =>
    if which.takesKey then .ok (special which key) else .error (.noItemsOfKind which)
  | special _ _, _ => .error (.secondKey value.quoted)
  | _, _ => .error (.noItems value.kindOf)

end Value

end IgniterLint.Reflection
