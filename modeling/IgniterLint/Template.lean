/-
This file fills message templates. A template is literal text with fields in braces; a brace that
is meant literally is doubled. There is one value to fill in, under one name. A field gives that
name, perhaps steps to a part of the value, perhaps a conversion, and perhaps a layout, and a layout
may itself hold fields.

A template is first read into a script, which ends where the template does or where it goes wrong.
Filling follows the script from the left, so a fault in an early field is met before a misplaced
brace behind it. The value is copied and never read as a template.
-/

import IgniterLint.Template.Layout.Number
import IgniterLint.Template.Step

namespace IgniterLint

open Reflection (Value)

namespace Template

/-- A field as written between its braces. -/
structure Field where
  name : Text
  conversion : Option Char
  layout : Text
deriving DecidableEq, Repr

/-- What a template says, from the left: characters to copy and fields to fill, up to its end or to
the fault that stops the reading. -/
inductive Script where
  | done
  | broken (fault : TemplateFault)
  | literal (c : Char) (next : Script)
  | field (asked : Field) (next : Script)
deriving DecidableEq, Repr

/-! ### Reading a field -/

/-- The name of a field, the character that ends it, and what follows. Inside square brackets only
the closing bracket counts. -/
def readName (bracketed : Bool) : Text → Except TemplateFault (Text × Char × Text)
  | [] => .error .unclosedField
  | c :: rest =>
    if bracketed then do
      let (name, ending, remaining) ← readName (c != ']') rest
      return (c :: name, ending, remaining)
    else if c = '{' then .error .openingInName
    else if c = '}' ∨ c = ':' ∨ c = '!' then .ok ([], c, rest)
    else do
      let (name, ending, remaining) ← readName (c == '[') rest
      return (c :: name, ending, remaining)

/-- The notation of a layout up to the brace that closes its field. `depth` counts the braces opened
inside it. -/
def readLayout (depth : Nat) : Text → Except TemplateFault Text
  | [] => .error .unclosedLayout
  | c :: rest =>
    if c = '{' then do
      let layout ← readLayout (depth + 1) rest
      return c :: layout
    else if c = '}' then
      match depth with
      | 0 => .ok []
      | depth + 1 => do
        let layout ← readLayout depth rest
        return c :: layout
    else do
      let layout ← readLayout depth rest
      return c :: layout

/-- What stands behind the conversion mark of a field: the conversion, and then the end of the field
or a layout. Comes with the number of characters up to the end of the field. -/
def readConversion (name : Text) : Text → Except TemplateFault (Field × Nat)
  | [] => .error .missingConversion
  | [_] => .error .unclosedLayout
  | letter :: c :: rest =>
    if c = '}' then .ok (⟨name, some letter, []⟩, 2)
    else if c = ':' then do
      let layout ← readLayout 0 rest
      return (⟨name, some letter, layout⟩, layout.length + 3)
    else .error .trailingConversion

/-- A field, from behind its opening brace, with the number of characters up to and including its
closing one. -/
def readField (text : Text) : Except TemplateFault (Field × Nat) := do
  let (name, ending, rest) ← readName false text
  if ending = '!' then do
    let (field, length) ← readConversion name rest
    return (field, name.length + 1 + length)
  else if ending = ':' then do
    let layout ← readLayout 0 rest
    return (⟨name, none, layout⟩, name.length + layout.length + 2)
  else return (⟨name, none, []⟩, name.length + 1)

/-! ### Reading a template -/

/-- The script of a template. The first `skip` characters belong to what was read last. -/
def scriptAfter : (skip : Nat) → Text → Script
  | _, [] => .done
  | skip + 1, _ :: rest => scriptAfter skip rest
  | 0, c :: rest =>
    if c = '{' then
      match rest with
      | [] => .broken .loneOpening
      | next :: _ =>
        if next = '{' then .literal '{' (scriptAfter 1 rest)
        else
          match readField rest with
          | .error fault => .broken fault
          | .ok (field, length) => .field field (scriptAfter length rest)
    else if c = '}' then
      match rest with
      | '}' :: _ => .literal '}' (scriptAfter 1 rest)
      | _ => .broken .loneClosing
    else .literal c (scriptAfter 0 rest)

/-- Skipping is the same as starting further on. -/
theorem scriptAfter_skip (skip : Nat) (text : Text) :
    scriptAfter skip text = scriptAfter 0 (text.drop skip) := by
  induction text generalizing skip with
  | nil => simp [scriptAfter]
  | cons c rest inductionHypothesis =>
    cases skip with
    | zero => rfl
    | succ skip => rw [scriptAfter, inductionHypothesis, List.drop_succ_cons]

/-- The script of a template. -/
def script (template : Text) : Script := scriptAfter 0 template

/-- Follows a script, with `fill` for its fields. -/
def Script.follow (fill : Field → Except TemplateFault Text) : Script → Except TemplateFault Text
  | .done => .ok []
  | .broken fault => .error fault
  | .literal c next => do
    let rest ← next.follow fill
    return c :: rest
  | .field asked next => do
    let value ← fill asked
    let rest ← next.follow fill
    return value ++ rest

/-! ### Filling the fields -/

/-- The one name that a field may have. -/
def valueName : Text := "name".toList

/-- What a field of this name stands for: the value, or what the steps behind its name lead to. A
field without a name, or with a number for one, asks for a value by its place, and there is none at
any place. -/
def valueOf (value name : Text) : Except TemplateFault Value := do
  let head := name.takeWhile fun c => !startsStep c
  if head.isEmpty then throw (.positional 0)
  match ← Layout.indexOf head with
  | some index => throw (.positional index)
  | none =>
    if head ≠ valueName then throw (.unknownField head)
    else reach (.text value) (steps (name.drop head.length))

/-- A value after the conversion: as it is, as text, or as text that tells what it is, in any
characters or in ASCII alone. The null character stands for no conversion. -/
def convert (conversion : Option Char) (value : Value) : Except TemplateFault Value :=
  match conversion with
  | none => .ok value
  | some '\x00' => .ok value
  | some 's' => .ok (.text value.written)
  | some 'r' => .ok (.text value.quoted)
  | some 'a' => .ok (.text value.quoted.asciiOnly)
  | some letter => .error (.unknownConversion letter)

/-- Writes a value in a layout. Only texts and numbers take one, and truth values, as numbers. The
field may be as wide as there is memory for. -/
def lay (memory : Nat) (layout : Text) (value : Value) : Except TemplateFault Text :=
  if layout.isEmpty then .ok value.written
  else
    match value with
    | .text content => Layout.apply memory layout content
    | .number n => Layout.applyToNumber memory layout .numbers n
    | .truth holds => Layout.applyToNumber memory layout .truths holds.toNat
    | _ => .error (.layoutRefused value.kindOf)

/-- Fills a template whose layouts may hold fields to the given depth. -/
def fillTo (memory : Nat) (value : Text) : (depth : Nat) → Text → Except TemplateFault Text
  | 0, _ => .error .tooDeep
  | depth + 1, template =>
    (script template).follow fun field => do
      let found ← valueOf value field.name
      let converted ← convert field.conversion found
      let layout ← if field.layout.contains '{' then fillTo memory value depth field.layout
        else pure field.layout
      lay memory layout converted

/-- Fills a template with the value. A layout may hold fields, and the layouts of those may not. -/
def fill (memory : Nat) (value template : Text) : Except TemplateFault Text :=
  fillTo memory value 2 template

end Template

end IgniterLint
