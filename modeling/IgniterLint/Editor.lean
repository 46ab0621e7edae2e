/-
This file models the editor that a session works in. The editor hands out collections to publish
diagnostics in, keeps subscriptions to its events, and knows the document in front of the user. Any
call on it may be refused, at any point: the plan of refusals is part of the editor, and depends on
how many calls came before. Every call is recorded with its outcome before its caller learns of it,
so what happened can be read off the record, and the journal keeps what was logged on the way.
-/

import IgniterLint.Diagnostic
import IgniterLint.Document
import IgniterLint.Fault

namespace IgniterLint

/-- What the editor can call back for. -/
inductive Trigger where
  | opened
  | saved
  | command
deriving DecidableEq, Repr

/-- The word for a trigger. -/
def Trigger.word : Trigger → String
  | opened => "open"
  | saved => "save"
  | command => "command"

/-- A place to publish diagnostics in. Collections of one name are told apart by their numbers. -/
structure Collection where
  number : Nat
  name : String
deriving DecidableEq, Repr

/-- A standing request to be called back. Only a command has an id. -/
structure Subscription where
  number : Nat
  trigger : Trigger
  commandId : String
deriving DecidableEq, Repr

/-- A call on the editor, on one of its collections, or on one of its subscriptions. -/
inductive Call where
  | createCollection (name : String)
  | subscribeOpened
  | subscribeSaved
  | registerCommand (id : String)
  | activeDocument
  | publish (collection : Collection) (identity : Text) (diagnostics : List Diagnostic)
  | clear (collection : Collection)
  | dispose (subscription : Subscription)
deriving DecidableEq, Repr

/-- The name of a call. -/
def Call.name : Call → String
  | createCollection _ => "create_collection"
  | subscribeOpened => "subscribe_open"
  | subscribeSaved => "subscribe_save"
  | registerCommand _ => "register_command"
  | activeDocument => "active_document"
  | publish _ _ _ => "publish"
  | clear _ => "clear"
  | dispose subscription => "dispose_" ++ subscription.trigger.word

/-- A call that was made, and whether it returned. -/
structure CallRecord where
  call : Call
  returned : Bool
deriving DecidableEq, Repr

/-- A line of the journal. -/
inductive JournalEntry where
  | stored (count : Nat) (identity : Text) (ledger : String)
  | ledgerDisposed (ledger : String)
  | activated (collection : String) (rules : Nat)
  | deactivated (collection : String)
  | noActiveDocument (command : String)
  | skippedNameless
  | analyzed (identity : Text) (count : Nat)
deriving DecidableEq, Repr

/-- The wording of a line: its level, where it comes from, and what it says. -/
def JournalEntry.render : JournalEntry → Text
  | stored count identity ledger =>
    "DEBUG ci3lint.store: Stored ".toList ++ Text.ofNat count ++ " diagnostic(s) for ".toList ++
      identity ++ " in ".toList ++ ledger.toList
  | ledgerDisposed ledger =>
    "DEBUG ci3lint.store: Disposed diagnostic store ".toList ++ ledger.toList
  | activated collection rules =>
    "INFO ci3lint.host: Activated ".toList ++ collection.toList ++ " with ".toList ++
      Text.ofNat rules ++ " rule(s)".toList
  | deactivated collection => "INFO ci3lint.host: Deactivated ".toList ++ collection.toList
  | noActiveDocument command =>
    "DEBUG ci3lint.host: No active document; ".toList ++ command.toList ++ " ignored".toList
  | skippedNameless => "DEBUG ci3lint.host: Skipping document without identity".toList
  | analyzed identity count =>
    "DEBUG ci3lint.host: Analyzed ".toList ++ identity ++ ": ".toList ++ Text.ofNat count ++
      " diagnostic(s)".toList

/-- The editor and all that happened to it so far. -/
structure Editor where
  /-- whether a call is refused, given how many were made before it -/
  refuses : Nat → Call → Bool
  /-- the calls made, the earliest first -/
  calls : List CallRecord
  /-- the lines logged, the earliest first -/
  journal : List JournalEntry
  /-- how many collections were handed out -/
  collections : Nat
  /-- the subscriptions made, the earliest first -/
  subscriptions : List Subscription
  /-- the numbers of the subscriptions that were disposed of -/
  disposed : List Nat
  /-- the document in front of the user -/
  document : Option Document

/-- Why an operation on a session, or on its ledger, came to nothing. -/
inductive SessionFault where
  /-- the check of the document failed -/
  | check (cause : Fault)
  /-- the editor refused the call of this name -/
  | refused (call : String)
  /-- the ledger of this name is closed -/
  | ledgerDisposed (ledger : String)
  /-- the session is not active -/
  | inactive
  /-- the session is active already -/
  | alreadyActive
  /-- no subscription was handed out at this place -/
  | nothingHanded
  /-- no list reaches as far as this place -/
  | indexTooFar
deriving DecidableEq, Repr

namespace SessionFault

/-- The wording of each fault. -/
def message : SessionFault → Text
  | check cause => cause.message
  | refused call => "host failed: ".toList ++ call.toList
  | ledgerDisposed ledger =>
    "Diagnostic store `".toList ++ ledger.toList ++ "` has been disposed".toList
  | inactive => "Extension is not active".toList
  | alreadyActive => "Extension is already active".toList
  | nothingHanded => "list index out of range".toList
  | indexTooFar => "cannot fit 'int' into an index-sized integer".toList

end SessionFault

namespace Editor

/-- An editor to which nothing has happened and which refuses nothing. -/
def fresh : Editor where
  refuses _ _ := false
  calls := []
  journal := []
  collections := 0
  subscriptions := []
  disposed := []
  document := none

/-- Adds a line to the journal. -/
def note (entry : JournalEntry) (editor : Editor) : Editor :=
  { editor with journal := editor.journal ++ [entry] }

/-- Makes a call: it is recorded, and then it is refused or returns. -/
def perform (call : Call) : EStateM SessionFault Editor Unit := fun editor =>
  let refused := editor.refuses editor.calls.length call
  let editor := { editor with calls := editor.calls ++ [⟨call, !refused⟩] }
  if refused then .error (.refused call.name) editor else .ok () editor

/-- Asks for a new collection. -/
def createCollection (name : String) : EStateM SessionFault Editor Collection := do
  perform (.createCollection name)
  let editor ← get
  set { editor with collections := editor.collections + 1 }
  return ⟨editor.collections, name⟩

/-- The call that asks for a subscription. -/
def subscribeCall (trigger : Trigger) (commandId : String) : Call :=
  match trigger with
  | .opened => .subscribeOpened
  | .saved => .subscribeSaved
  | .command => .registerCommand commandId

/-- Asks for a subscription, which is kept if the call returns. -/
def subscribe (trigger : Trigger) (commandId : String) :
    EStateM SessionFault Editor Subscription := do
  perform (subscribeCall trigger commandId)
  let editor ← get
  let subscription : Subscription := ⟨editor.subscriptions.length, trigger, commandId⟩
  set { editor with subscriptions := editor.subscriptions ++ [subscription] }
  return subscription

/-- Ends a subscription. It ends even when the call is refused afterwards. -/
def dispose (subscription : Subscription) : EStateM SessionFault Editor Unit := do
  modify fun editor => { editor with disposed := subscription.number :: editor.disposed }
  perform (.dispose subscription)

/-- Asks for the document in front of the user. -/
def activeDocument : EStateM SessionFault Editor (Option Document) := do
  perform .activeDocument
  return (← get).document

/-- Whether a subscription still stands. -/
def isLive (editor : Editor) (subscription : Subscription) : Bool :=
  !editor.disposed.contains subscription.number

/-- The subscriptions to a trigger that still stand, the earliest first. -/
def live (editor : Editor) (trigger : Trigger) : List Subscription :=
  editor.subscriptions.filter fun subscription =>
    subscription.trigger == trigger && editor.isLive subscription

end Editor

end IgniterLint
