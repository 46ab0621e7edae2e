/-
This file holds sessions: the analyzer at work in an editor. Activating a session asks the editor
for a collection, opens a ledger that publishes in it, and subscribes to the events on which
documents are checked. Deactivating it ends the subscriptions and disposes of the ledger. The editor
may refuse any of this half way, and the session then stands where the refusal left it; asking again
takes up from there.
-/

import IgniterLint.Engine

namespace IgniterLint

/-- The names that tie a session to its editor, and the registry that its rules ask. -/
structure Options where
  language : String
  commandId : String
  collectionName : String
  registry : Registry

/-- The options that hold unless others are given. -/
def Options.defaults : Options where
  language := Document.sourceLanguage
  commandId := "codeigniter-3-intelligence.analyzeCurrentFile"
  collectionName := "codeigniter3"
  registry := .unaware

/-- A session, with the desk it works at. The ledger on the desk is the one it opened. -/
structure Session extends Desk where
  options : Options
  /-- whether the session may ask the editor for the document in front of the user -/
  attached : Bool
  engine : Option Engine
  /-- the subscriptions that the session has to end -/
  subscriptions : List Subscription
  /-- the subscriptions that the last activation handed to its caller -/
  handed : List Subscription

namespace Session

/-- An operation on a session. What it did before a fault stays done. -/
abbrev Action := EStateM SessionFault Session

/-- A session that was never active, at an editor to which nothing has happened. -/
def fresh (options : Options) : Session where
  ledger := none
  editor := Editor.fresh
  options := options
  attached := false
  engine := none
  subscriptions := []
  handed := []

/-- A session is active while it has a ledger. -/
def isActive (session : Session) : Bool := session.ledger.isSome

/-- Acts at the session's desk. -/
def onDesk {α : Type} (action : Desk.Action α) : Action α := fun session =>
  match action session.toDesk with
  | .ok value desk => .ok value { session with toDesk := desk }
  | .error fault desk => .error fault { session with toDesk := desk }

/-- Lets the editor act. -/
def onEditor {α : Type} (action : EStateM SessionFault Editor α) : Action α :=
  onDesk (Desk.onEditor action)

/-! ### Activation -/

/-- Sets up the ledger, the engine and the way to the editor. -/
def connect (collection : Collection) (session : Session) : Session :=
  { session with
    ledger := some (Ledger.fresh session.options.collectionName (some collection))
    attached := true
    engine := some ⟨Rule.defaults session.options.registry⟩ }

/-- Drops the ledger, the engine and the way to the editor. -/
def disconnect (session : Session) : Session :=
  { session with ledger := none, attached := false, engine := none }

/-- Subscribes to opening, to saving and to the command, in this order. -/
def subscribeAll (commandId : String) : EStateM SessionFault Editor (List Subscription) := do
  let opened ← Editor.subscribe .opened commandId
  let saved ← Editor.subscribe .saved commandId
  let command ← Editor.subscribe .command commandId
  return [opened, saved, command]

/-- Activates a session that is not active. -/
def activate : Action (List Subscription) := do
  let session ← get
  if session.isActive then throw .alreadyActive
  let collection ← onEditor (Editor.createCollection session.options.collectionName)
  modify (connect collection)
  let subscriptions ← onEditor (subscribeAll session.options.commandId)
  modify fun session => { session with subscriptions := subscriptions }
  onDesk (Desk.note (.activated session.options.collectionName
    (Rule.defaults session.options.registry).length))
  modify fun session => { session with handed := subscriptions }
  return subscriptions

/-- The largest index into a list: sixty-three bits, all set. -/
def indexLimit : Nat := 0x7fffffffffffffff

/-- The subscription at an index of those handed out. A negative index counts from the end, so that
`-1` is the last. -/
def handedAt (session : Session) (index : Int) : Except SessionFault Subscription :=
  if (indexLimit : Int) < index ∨ index < -(indexLimit : Int) - 1 then
    .error .indexTooFar
  else
    let place := if index < 0 then index + session.handed.length else index
    match if place < 0 then none else session.handed[place.toNat]? with
    | some subscription => .ok subscription
    | none => .error .nothingHanded

/-- Ends subscriptions one after the other, up to the first refusal. -/
def disposeAll : List Subscription → EStateM SessionFault Editor Unit
  | [] => return ()
  | subscription :: rest => do
    Editor.dispose subscription
    disposeAll rest

/-- Deactivates a session, and gives back the ledger that it closed. The subscriptions are forgotten
only when all of them have ended, and the ledger only when it has been disposed of. -/
def deactivate : Action (Option Ledger) := do
  let session ← get
  onEditor (disposeAll session.subscriptions)
  modify fun session => { session with subscriptions := [] }
  if session.isActive then onDesk Desk.dispose
  let closed := (← get).ledger
  modify disconnect
  onDesk (Desk.note (.deactivated session.options.collectionName))
  return closed

/-! ### Events -/

/-- Checks a document that reached the session, if it is in the session's language and has an
identity to file under. -/
def receive (document : Document) : Action Unit := do
  let session ← get
  match session.engine with
  | none => throw .inactive
  | some engine =>
    if document.language = session.options.language then
      if document.identity = [] then onDesk (Desk.note .skippedNameless)
      else
        let diagnostics ← onDesk (engine.analyze document)
        onDesk (Desk.note (.analyzed document.identity diagnostics.length))

/-- Checks the document in front of the user. -/
def runCommand : Action Unit := do
  let session ← get
  unless session.attached do throw .inactive
  match ← onEditor Editor.activeDocument with
  | none => onDesk (Desk.note (.noActiveDocument session.options.commandId))
  | some document => receive document

/-- What the editor does when a document is opened or saved: every standing subscription to the
trigger is called, the earliest first. The answer is how many stand afterwards. -/
def fire (trigger : Trigger) (document : Document) : Action Nat := do
  let session ← get
  (session.editor.live trigger).forM fun _ => receive document
  return ((← get).editor.live trigger).length

/-- The standing subscriptions to a command. -/
def liveCommands (id : String) (editor : Editor) : List Subscription :=
  (editor.live .command).filter fun subscription => subscription.commandId == id

/-- What the editor does when the user gives a command: of the standing subscriptions to it, the
latest is called. The answer is how many there are. -/
def fireCommand (id : String) : Action Nat := do
  let session ← get
  let standing := liveCommands id session.editor
  unless standing.isEmpty do runCommand
  return standing.length

/-! ### Requests -/

/-- What can happen to a session. -/
inductive Request where
  | activate
  | deactivate
  | opened (document : Document)
  | saved (document : Document)
  | command (id : String)
  /-- the user turns to another document, or to none -/
  | face (document : Option Document)
  /-- the handler for opened and saved documents is called directly -/
  | receive (document : Document)
  /-- the handler for the command is called directly -/
  | runCommand
  /-- a subscription that was handed out is ended by its holder -/
  | disposeHanded (index : Int)
  | ledger (request : Desk.Request)
  /-- from now on the editor refuses calls by this plan -/
  | refuse (plan : Nat → Call → Bool)

/-- What comes back. -/
inductive Reply where
  | nothing
  | subscriptions (subscriptions : List Subscription)
  | count (count : Nat)
  | ledger (reply : Desk.Reply)
deriving DecidableEq, Repr

/-- Changes the editor without calling it. -/
def modifyEditor (change : Editor → Editor) : Action Unit :=
  modify fun session => { session with editor := change session.editor }

/-- Does what is asked. -/
def answer : Request → Action Reply
  | .activate => return .subscriptions (← activate)
  | .deactivate => do
    let _ ← deactivate
    return .nothing
  | .opened document => return .count (← fire .opened document)
  | .saved document => return .count (← fire .saved document)
  | .command id => return .count (← fireCommand id)
  | .face document => do
    modifyEditor fun editor => { editor with document := document }
    return .nothing
  | .receive document => do
    receive document
    return .nothing
  | .runCommand => do
    runCommand
    return .nothing
  | .disposeHanded index => do
    match (← get).handedAt index with
    | .error fault => throw fault
    | .ok subscription => onEditor (Editor.dispose subscription)
    return .nothing
  | .ledger request => return .ledger (← onDesk (Desk.answer request))
  | .refuse plan => do
    modifyEditor fun editor => { editor with refuses := plan }
    return .nothing

end Session

end IgniterLint
