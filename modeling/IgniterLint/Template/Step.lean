/-
This file holds the steps that a field of a template may take into its value. Behind the name of the
field, a dot and a name ask for a part of what has been reached, and a key in square brackets asks
for one of its items. The steps are taken from the left, and the first that fails is the answer.

A key of decimal digits is a number, and any other is a text.
-/

import IgniterLint.Reflection.Value
import IgniterLint.Template.Layout

namespace IgniterLint

open Reflection (Key Value)

namespace Template

/-- A step into a value. -/
inductive Step where
  /-- to the part of a name -/
  | part (name : Text)
  /-- to the item of a key -/
  | item (key : Text)
  /-- nowhere, because what is written is no step -/
  | stray
deriving DecidableEq, Repr

/-- Whether a character is one of those that start a step. -/
def startsStep (c : Char) : Bool := c == '.' || c == '['

/-- The steps that a text spells out. A key runs to the closing bracket whatever it holds. The first
`skip` characters belong to the step that was read last. -/
def stepsAfter : (skip : Nat) → Text → List Step
  | _, [] => []
  | skip + 1, _ :: rest => stepsAfter skip rest
  | 0, c :: rest =>
    if c = '.' then
      let name := rest.takeWhile fun c => !startsStep c
      .part name :: stepsAfter name.length rest
    else if c = '[' then
      let key := rest.takeWhile (· != ']')
      .item key :: stepsAfter (key.length + 1) rest
    else [.stray]

/-- The steps that a text spells out. -/
def steps (text : Text) : List Step := stepsAfter 0 text

/-- Takes one step into a value. A key is read before anything is asked of the value, and a step has
to name something. -/
def take (value : Value) : Step → Except TemplateFault Value
  | .part name =>
    if name.isEmpty then .error .emptyStep
    else (value.part name).mapError .step
  | .item key => do
    let index ← Layout.indexOf key
    if key.isEmpty then throw .emptyStep
    let key := match index with
      | some n => Key.number n
      | none => Key.text key
    (value.item key).mapError .step
  | .stray => .error .strayAfterKey

/-- Takes steps into a value, from the left. -/
def reach (value : Value) (steps : List Step) : Except TemplateFault Value :=
  steps.foldlM take value

end Template

end IgniterLint
