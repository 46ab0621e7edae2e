/-
This file holds ledgers. A ledger files the current diagnostics of each document under the
document's identity. Filing again replaces what was there and keeps its place; a removed identity
that is filed again goes to the end. The ledger publishes what it files, and once it is disposed of
it takes nothing more.

Every change is made in the ledger first and published after. A refused publication is a fault of
the operation, and the change stays.
-/

import IgniterLint.Editor

namespace IgniterLint

/-- The current diagnostics of each document, in the order of filing. -/
structure Ledger where
  name : String
  publisher : Option Collection
  entries : List (Text × List Diagnostic)
  disposed : Bool
deriving DecidableEq, Repr

namespace Ledger

/-- A ledger with nothing in it. -/
def fresh (name : String) (publisher : Option Collection) : Ledger := ⟨name, publisher, [], false⟩

/-- Files diagnostics under an identity: in place of those filed before, or at the end. -/
def put (identity : Text) (diagnostics : List Diagnostic) :
    List (Text × List Diagnostic) → List (Text × List Diagnostic)
  | [] => [(identity, diagnostics)]
  | entry :: rest =>
    if entry.1 = identity then (identity, diagnostics) :: rest
    else entry :: put identity diagnostics rest

/-- The identities that have an entry, in the order of filing. -/
def identities (ledger : Ledger) : List Text := ledger.entries.map (·.1)

/-- Whether anything is filed under the identity, be it an empty list. -/
def contains (ledger : Ledger) (identity : Text) : Bool := ledger.identities.contains identity

/-- What is filed under the identity. -/
def get (ledger : Ledger) (identity : Text) : List Diagnostic :=
  (ledger.entries.lookup identity).getD []

/-- The ledger with diagnostics filed under the identity. -/
def insert (ledger : Ledger) (identity : Text) (diagnostics : List Diagnostic) : Ledger :=
  { ledger with entries := put identity diagnostics ledger.entries }

theorem lookup_put_self (identity : Text) (diagnostics : List Diagnostic)
    (entries : List (Text × List Diagnostic)) :
    (put identity diagnostics entries).lookup identity = some diagnostics := by
  induction entries with
  | nil => exact List.lookup_cons_self
  | cons entry rest inductionHypothesis =>
    obtain ⟨filed, found⟩ := entry
    by_cases same : filed = identity
    · rw [put, if_pos same, List.lookup_cons_self]
    · rw [put, if_neg same, List.lookup_cons, beq_false_of_ne (Ne.symm same)]
      exact inductionHypothesis

theorem lookup_put_of_ne (identity wanted : Text) (diagnostics : List Diagnostic)
    (entries : List (Text × List Diagnostic)) (other : wanted ≠ identity) :
    (put identity diagnostics entries).lookup wanted = entries.lookup wanted := by
  induction entries with
  | nil => rw [put, List.lookup_cons, beq_false_of_ne other]
  | cons entry rest inductionHypothesis =>
    obtain ⟨filed, found⟩ := entry
    by_cases same : filed = identity
    · subst same
      rw [put, if_pos rfl, List.lookup_cons, List.lookup_cons, beq_false_of_ne other]
    · rw [put, if_neg same, List.lookup_cons, List.lookup_cons, inductionHypothesis]

/-- A new identity goes to the end, and a known one keeps its place. -/
theorem map_fst_put (identity : Text) (diagnostics : List Diagnostic)
    (entries : List (Text × List Diagnostic)) :
    (put identity diagnostics entries).map (·.1) =
      if identity ∈ entries.map (·.1) then entries.map (·.1)
      else entries.map (·.1) ++ [identity] := by
  induction entries with
  | nil => simp [put]
  | cons entry rest inductionHypothesis =>
    rw [put]
    split
    · next same => simp [same]
    · next other =>
      rw [List.map_cons, inductionHypothesis]
      split
      · next member => simp [member]
      · next absent => simp [absent, Ne.symm other]

theorem get_insert_self (ledger : Ledger) (identity : Text) (diagnostics : List Diagnostic) :
    (ledger.insert identity diagnostics).get identity = diagnostics := by
  rw [get, insert, lookup_put_self, Option.getD_some]

theorem get_insert_of_ne (ledger : Ledger) (identity wanted : Text)
    (diagnostics : List Diagnostic) (other : wanted ≠ identity) :
    (ledger.insert identity diagnostics).get wanted = ledger.get wanted := by
  rw [get, get, insert, lookup_put_of_ne _ _ _ _ other]

/-- The ledger without the entry of the identity. -/
def erase (ledger : Ledger) (identity : Text) : Ledger :=
  { ledger with entries := ledger.entries.filter fun entry => entry.1 ≠ identity }

/-- Filing under an identity concerns no other entry. -/
theorem erase_insert_self (ledger : Ledger) (identity : Text) (diagnostics : List Diagnostic) :
    (ledger.insert identity diagnostics).erase identity = ledger.erase identity := by
  rw [erase, erase, insert]
  congr 1
  dsimp only
  induction ledger.entries with
  | nil => simp [put]
  | cons entry rest inductionHypothesis =>
    rw [put]
    split
    · next same => simp [same]
    · next other => rw [List.filter_cons, List.filter_cons, inductionHypothesis]

theorem erase_insert_of_ne (ledger : Ledger) {identity removed : Text}
    (diagnostics : List Diagnostic) (other : identity ≠ removed) :
    (ledger.insert identity diagnostics).erase removed =
      (ledger.erase removed).insert identity diagnostics := by
  rw [erase, erase, insert, insert]
  congr 1
  dsimp only
  induction ledger.entries with
  | nil => simp [put, other]
  | cons entry rest inductionHypothesis =>
    by_cases same : entry.1 = identity
    · simp [put, same, other]
    · by_cases gone : entry.1 = removed
      · simpa [put, gone, Ne.symm other] using inductionHypothesis
      · simpa [put, same, gone] using inductionHypothesis

/-- The ledger without entries. -/
def clear (ledger : Ledger) : Ledger := { ledger with entries := [] }

end Ledger

/-- What the operations on a ledger work on: the ledger, if there is one, and the editor that it
publishes in. -/
structure Desk where
  ledger : Option Ledger
  editor : Editor

namespace Desk

/-- An operation on a desk. What it did before a fault stays done. -/
abbrev Action := EStateM SessionFault Desk

/-- Lets the editor act. -/
def onEditor {α : Type} (action : EStateM SessionFault Editor α) : Action α := fun desk =>
  match action desk.editor with
  | .ok value editor => .ok value { desk with editor := editor }
  | .error fault editor => .error fault { desk with editor := editor }

/-- Adds a line to the journal. -/
def note (entry : JournalEntry) : Action Unit :=
  modify fun desk => { desk with editor := desk.editor.note entry }

/-- Puts a ledger on the desk, in place of the one there. -/
def place (ledger : Ledger) : Action Unit := modify fun desk => { desk with ledger := some ledger }

/-- The ledger on the desk. -/
def theLedger : Action Ledger := do
  match (← get).ledger with
  | some ledger => return ledger
  | none => throw .inactive

/-- The ledger on the desk, which has to be open. -/
def openLedger : Action Ledger := do
  let ledger ← theLedger
  if ledger.disposed then throw (.ledgerDisposed ledger.name) else return ledger

/-- Makes a call on the ledger's publisher, if it has one. -/
def tellPublisher (ledger : Ledger) (call : Collection → Call) : Action Unit :=
  match ledger.publisher with
  | some collection => onEditor (Editor.perform (call collection))
  | none => return ()

/-- Files diagnostics under an identity and publishes them. -/
def replace (identity : Text) (diagnostics : List Diagnostic) : Action Unit := do
  let ledger ← openLedger
  place (ledger.insert identity diagnostics)
  note (.stored diagnostics.length identity ledger.name)
  tellPublisher ledger fun collection => .publish collection identity diagnostics

/-- Removes the entry of an identity. If there was one, nothing is published in its place. -/
def delete (identity : Text) : Action Unit := do
  let ledger ← openLedger
  if ledger.contains identity then
    place (ledger.erase identity)
    tellPublisher ledger fun collection => .publish collection identity []

/-- Empties the ledger, clears what it published, and closes it. A refused clearing leaves it empty
and open. A closed ledger is left alone. -/
def dispose : Action Unit := do
  let ledger ← theLedger
  unless ledger.disposed do
    place ledger.clear
    tellPublisher ledger .clear
    place { ledger.clear with disposed := true }
    note (.ledgerDisposed ledger.name)

/-! ### Requests -/

/-- What can be asked of the ledger on a desk. -/
inductive Request where
  | replace (identity : Text) (diagnostics : List Diagnostic)
  | get (identity : Text)
  | delete (identity : Text)
  | contains (identity : Text)
  | identities
  | dispose
deriving DecidableEq, Repr

/-- What comes back. -/
inductive Reply where
  | nothing
  | diagnostics (diagnostics : List Diagnostic)
  | present (present : Bool)
  | identities (identities : List Text)
deriving DecidableEq, Repr

/-- Answers a request. -/
def answer : Request → Action Reply
  | .replace identity diagnostics => do
    replace identity diagnostics
    return .nothing
  | .get identity => return .diagnostics ((← theLedger).get identity)
  | .delete identity => do
    delete identity
    return .nothing
  | .contains identity => return .present ((← theLedger).contains identity)
  | .identities => return .identities (← theLedger).identities
  | .dispose => do
    dispose
    return .nothing

end Desk

end IgniterLint
