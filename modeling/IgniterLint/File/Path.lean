/-
This file holds paths. A path is a root and a list of names; the written form has several spellings,
and reading one drops doubled slashes and the names that stand for the place itself. A path with
nothing in it is written as a dot. Paths are ordered name by name, so a folder's contents stay
together however its siblings are called.
-/

import IgniterLint.Text

namespace IgniterLint

/-- Where a path starts. -/
inductive Root where
  /-- at the place where the program runs -/
  | here
  /-- at the top -/
  | top
  /-- at the top, written with exactly two slashes -/
  | doubleTop
deriving DecidableEq, Repr

/-- The written form of a root. -/
def Root.render : Root → Text
  | here => []
  | top => "/".toList
  | doubleTop => "//".toList

/-- A place in the file system. -/
structure Path where
  root : Root
  names : List Text
deriving DecidableEq, Repr

namespace Path

/-- The root of a written path: two slashes in front are kept, and any other number counts as
one. -/
def rootOf (text : Text) : Root :=
  match (text.takeWhile (· == '/')).length with
  | 0 => .here
  | 2 => .doubleTop
  | _ => .top

/-- A text cut at every slash. -/
def splitSlashes : Text → List Text
  | [] => [[]]
  | c :: rest =>
    if c = '/' then [] :: splitSlashes rest
    else
      match splitSlashes rest with
      | [] => [[c]]
      | name :: names => (c :: name) :: names

/-- The name that stands for the place itself. -/
def samePlace : Text := ".".toList

/-- The name that stands for the place above. -/
def placeAbove : Text := "..".toList

/-- Reads a written path. -/
def ofText (text : Text) : Path :=
  ⟨rootOf text, (splitSlashes text).filter fun name => !name.isEmpty && name != samePlace⟩

/-- The written form of a path. -/
def render (path : Path) : Text :=
  if path.root = .here ∧ path.names = [] then samePlace
  else path.root.render ++ Text.joinWith "/".toList path.names

/-- The path of a file further down. -/
def append (path : Path) (names : List Text) : Path := { path with names := path.names ++ names }

/-- The last name of a path; the roots have none. -/
def name (path : Path) : Text := path.names.getLastD []

/-- The ending of a name: what stands from the last dot on, unless that dot is the first or the last
character of the name. -/
def endingOf (name : Text) : Text :=
  let ending := name.reverse.takeWhile (· != '.')
  if ending.isEmpty || name.length ≤ ending.length + 1 then []
  else '.' :: ending.reverse

/-- The ending of the last name of a path. -/
def ending (path : Path) : Text := endingOf path.name

/-- Whether the path can be handed to the system at all: a null character would cut it short. -/
def hasNull (path : Path) : Bool := path.render.contains '\x00'

/-- Whether a list of names comes before another, or equals it, compared name by name. -/
def namesPrecede : List Text → List Text → Bool
  | [], _ => true
  | _ :: _, [] => false
  | a :: first, b :: second => if a = b then namesPrecede first second else a.precedes b

end Path

end IgniterLint
