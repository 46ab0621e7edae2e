/-
This file says what activating and deactivating a session come to. An activation ends at the first
call that is refused, and there are four of them; each of the points where it can end is one
outcome, with the subscriptions that had been made by then. A deactivation ends the subscriptions
that the session recorded, up to the first refusal, and the session forgets them when all have
ended. It then disposes of its ledger, and lets go of it when that has returned.
-/

import IgniterLint.Proofs.Ledger.Answer
import IgniterLint.Proofs.Session.Run

namespace IgniterLint

namespace Session

/-! ### How far an activation gets -/

theorem onEditor_of_ok {α : Type} {action : EStateM SessionFault Editor α} {session : Session}
    {value : α} {editor : Editor} (returned : action session.editor = .ok value editor) :
    onEditor action session = .ok value { session with editor := editor } := by
  simp only [onEditor, onDesk, Desk.onEditor, returned]

theorem onEditor_of_error {α : Type} {action : EStateM SessionFault Editor α} {session : Session}
    {fault : SessionFault} {editor : Editor}
    (failed : action session.editor = .error fault editor) :
    onEditor action session = .error fault { session with editor := editor } := by
  simp only [onEditor, onDesk, Desk.onEditor, failed]

/-- The subscriptions of a session that is activated when so many were made before. -/
def subscriptionsFrom (number : Nat) (commandId : String) : List Subscription :=
  [⟨number, .opened, commandId⟩, ⟨number + 1, .saved, commandId⟩, ⟨number + 2, .command, commandId⟩]

/-- The calls for these subscriptions, none of them refused. -/
def subscribing (commandId : String) : List CallRecord :=
  [⟨.subscribeOpened, true⟩, ⟨.subscribeSaved, true⟩, ⟨.registerCommand commandId, true⟩]

/-- Which of the calls for subscriptions was refused, all the calls up to it, and what had been
subscribed to before. -/
inductive Halted (number : Nat) (commandId : String) :
    String → List CallRecord → List Subscription → Prop
  | opened : Halted number commandId "subscribe_open" [⟨.subscribeOpened, false⟩] []
  | saved : Halted number commandId "subscribe_save"
      [⟨.subscribeOpened, true⟩, ⟨.subscribeSaved, false⟩] [⟨number, .opened, commandId⟩]
  | command : Halted number commandId "register_command"
      [⟨.subscribeOpened, true⟩, ⟨.subscribeSaved, true⟩, ⟨.registerCommand commandId, false⟩]
      [⟨number, .opened, commandId⟩, ⟨number + 1, .saved, commandId⟩]

/-- The three calls for subscriptions end at the first that is refused, with those made that came
before it, or all of them return and the subscriptions have the next three numbers. -/
theorem subscribeAll_cases (commandId : String) (editor : Editor) :
    (∃ call calls made after, subscribeAll commandId editor = .error (.refused call) after ∧
      Halted editor.subscriptions.length commandId call calls made ∧
      editor.Underwent after ⟨calls, 0, made, []⟩) ∨
    ∃ after, subscribeAll commandId editor =
        .ok (subscriptionsFrom editor.subscriptions.length commandId) after ∧
      editor.Underwent after ⟨subscribing commandId, 0,
        subscriptionsFrom editor.subscriptions.length commandId, []⟩ := by
  rcases Editor.subscribe_cases .opened commandId editor with
    ⟨first, failed, underwent⟩ | ⟨first, opened, underwent⟩
  · exact Or.inl ⟨_, _, _, first, bind_of_error failed, .opened, underwent⟩
  have firstLength : first.subscriptions.length = editor.subscriptions.length + 1 := by
    rw [underwent.subscriptions, List.length_append]
    rfl
  rcases Editor.subscribe_cases .saved commandId first with
    ⟨second, failed, underwentSecond⟩ | ⟨second, saved, underwentSecond⟩
  · exact Or.inl ⟨_, _, _, second, (bind_of_ok opened).trans (bind_of_error failed), .saved,
      underwent.andThen underwentSecond⟩
  have secondLength : second.subscriptions.length = editor.subscriptions.length + 2 := by
    rw [underwentSecond.subscriptions, List.length_append, firstLength]
    rfl
  rw [firstLength] at saved underwentSecond
  rcases Editor.subscribe_cases .command commandId second with
    ⟨third, failed, underwentThird⟩ | ⟨third, command, underwentThird⟩
  · exact Or.inl ⟨_, _, _, third,
      (bind_of_ok opened).trans ((bind_of_ok saved).trans (bind_of_error failed)), .command,
      (underwent.andThen underwentSecond).andThen underwentThird⟩
  · rw [secondLength] at command underwentThird
    exact Or.inr ⟨third,
      (bind_of_ok opened).trans ((bind_of_ok saved).trans (bind_of_ok command)),
      (underwent.andThen underwentSecond).andThen underwentThird⟩

/-- What an activation comes to. -/
inductive Activated (session : Session) :
    EStateM.Result SessionFault Session (List Subscription) → Prop
  | already (active : session.isActive = true) : Activated session (.error .alreadyActive session)
  | refused (inactive : session.isActive = false) (editor : Editor)
    (underwent : session.editor.Underwent editor
      ⟨[⟨.createCollection session.options.collectionName, false⟩], 0, [], []⟩) :
    Activated session (.error (.refused "create_collection") { session with editor := editor })
  | halted (inactive : session.isActive = false) (collection : Collection) (call : String)
    (calls : List CallRecord) (made : List Subscription)
    (halted : Halted session.editor.subscriptions.length session.options.commandId call calls made)
    (editor : Editor)
    (underwent : session.editor.Underwent editor
      ⟨⟨.createCollection session.options.collectionName, true⟩ :: calls, 1, made, []⟩)
    (isNew : collection = ⟨session.editor.collections, session.options.collectionName⟩) :
    Activated session (.error (.refused call)
      { connect collection session with editor := editor })
  | complete (inactive : session.isActive = false) (collection : Collection)
    (subscriptions : List Subscription)
    (numbered : subscriptions =
      subscriptionsFrom session.editor.subscriptions.length session.options.commandId)
    (editor : Editor)
    (underwent : session.editor.Underwent editor
      ⟨⟨.createCollection session.options.collectionName, true⟩ ::
        subscribing session.options.commandId, 1, subscriptions, []⟩)
    (isNew : collection = ⟨session.editor.collections, session.options.collectionName⟩) :
    Activated session (.ok subscriptions { connect collection session with
      editor := editor, subscriptions := subscriptions, handed := subscriptions })

/-- What an activation does once it has its collection. -/
def settle (options : Options) (collection : Collection) : Action (List Subscription) := do
  modify (connect collection)
  let subscriptions ← onEditor (subscribeAll options.commandId)
  modify fun session => { session with subscriptions := subscriptions }
  onDesk (Desk.note (.activated options.collectionName (Rule.defaults options.registry).length))
  modify fun session => { session with handed := subscriptions }
  return subscriptions

/-- If a subscription is refused, the session is connected all the same, with nothing new on its
record. -/
theorem settle_of_error {options : Options} {collection : Collection} {session : Session}
    {fault : SessionFault} {editor : Editor}
    (failed : subscribeAll options.commandId session.editor = .error fault editor) :
    settle options collection session =
      .error fault { connect collection session with editor := editor } := by
  have stopped : onEditor (subscribeAll options.commandId) (connect collection session) =
      .error fault { connect collection session with editor := editor } := onEditor_of_error failed
  have connected : (modify (connect collection) : Action PUnit) session =
      .ok PUnit.unit (connect collection session) := rfl
  exact (bind_of_ok connected).trans (bind_of_error stopped)

/-- If all subscriptions are made, the session has them on record and hands them out. -/
theorem settle_of_ok {options : Options} {collection : Collection} {session : Session}
    {subscriptions : List Subscription} {editor : Editor}
    (subscribed : subscribeAll options.commandId session.editor = .ok subscriptions editor) :
    settle options collection session =
      .ok subscriptions { connect collection session with
        editor := editor.note
          (.activated options.collectionName (Rule.defaults options.registry).length)
        subscriptions := subscriptions
        handed := subscriptions } := by
  have returned : onEditor (subscribeAll options.commandId) (connect collection session) =
      .ok subscriptions { connect collection session with editor := editor } :=
    onEditor_of_ok subscribed
  have connected : (modify (connect collection) : Action PUnit) session =
      .ok PUnit.unit (connect collection session) := rfl
  exact (bind_of_ok connected).trans (bind_of_ok returned)

theorem activate_of_active {session : Session} (active : session.isActive = true) :
    activate session = .error .alreadyActive session := by
  show (if session.isActive then _ else _ : Action _) session = _
  rw [active]
  rfl

/-- An activation of an inactive session asks for a collection first; all else waits for that. -/
theorem activate_of_inactive {session : Session} (inactive : session.isActive = false) :
    activate session = (onEditor (Editor.createCollection session.options.collectionName) >>=
      settle session.options) session := by
  show (if session.isActive then _ else _ : Action _) session = _
  rw [inactive]
  rfl

/-- Every activation comes to one of the outcomes. -/
theorem activated (session : Session) : Activated session (activate session) := by
  cases isActive : session.isActive with
  | true =>
    rw [activate_of_active isActive]
    exact .already isActive
  | false =>
    rw [activate_of_inactive isActive]
    rcases Editor.createCollection_cases session.options.collectionName session.editor with
      ⟨editor, failed, underwent⟩ | ⟨editor, created, underwent⟩
    · rw [bind_of_error (onEditor_of_error failed)]
      exact .refused isActive editor underwent
    rw [bind_of_ok (onEditor_of_ok created)]
    have sameLength : editor.subscriptions.length = session.editor.subscriptions.length := by
      rw [underwent.subscriptions, List.append_nil]
    rcases subscribeAll_cases session.options.commandId editor with
      ⟨call, calls, made, after, failed, halted, underwentAfter⟩ |
      ⟨after, subscribed, underwentAfter⟩
    · rw [settle_of_error failed]
      rw [sameLength] at halted
      exact .halted isActive _ call calls made halted after (underwent.andThen underwentAfter) rfl
    · rw [settle_of_ok subscribed, sameLength]
      rw [sameLength] at underwentAfter
      exact .complete isActive _ _ rfl _
        ((underwent.andThen underwentAfter).andThen (after.underwent_note _)) rfl

/-! ### How far a deactivation gets -/

/-- The loop that ends subscriptions stops at the first refusal, with those ended that came before
it, or goes through. -/
theorem disposeAll_cases (subscriptions : List Subscription) (editor : Editor) :
    (∃ ended failing rest after, subscriptions = ended ++ failing :: rest ∧
      disposeAll subscriptions editor = .error (.refused (Call.dispose failing).name) after ∧
      editor.Underwent after ((Editor.Effect.ofEnding ended).andThen
        ⟨[⟨.dispose failing, false⟩], 0, [], [failing.number]⟩)) ∨
    ∃ after, disposeAll subscriptions editor = .ok () after ∧
      editor.Underwent after (.ofEnding subscriptions) := by
  induction subscriptions generalizing editor with
  | nil => exact Or.inr ⟨editor, rfl, Editor.underwent_of_same rfl rfl rfl rfl rfl⟩
  | cons subscription rest inductionHypothesis =>
    rcases Editor.dispose_cases subscription editor with
      ⟨after, failed, underwent⟩ | ⟨after, returned, underwent⟩
    · exact Or.inl ⟨[], subscription, rest, after, rfl, bind_of_error failed, underwent⟩
    rcases inductionHypothesis after with
      ⟨ended, failing, later, final, split, failed, underwentLater⟩ |
      ⟨final, ended, underwentLater⟩
    · refine Or.inl ⟨subscription :: ended, failing, later, final, by rw [split]; rfl,
        (bind_of_ok returned).trans failed, ?_⟩
      rw [Editor.Effect.ofEnding_cons, Editor.Effect.andThen_assoc]
      exact underwent.andThen underwentLater
    · refine Or.inr ⟨final, (bind_of_ok returned).trans ended, ?_⟩
      rw [Editor.Effect.ofEnding_cons]
      exact underwent.andThen underwentLater

/-- What a deactivation comes to. -/
inductive Deactivated (session : Session) :
    EStateM.Result SessionFault Session (Option Ledger) → Prop
  /-- a subscription could not be ended -/
  | halted (ended : List Subscription) (failing : Subscription) (rest : List Subscription)
    (split : session.subscriptions = ended ++ failing :: rest) (editor : Editor)
    (underwent : session.editor.Underwent editor ((Editor.Effect.ofEnding ended).andThen
      ⟨[⟨.dispose failing, false⟩], 0, [], [failing.number]⟩)) :
    Deactivated session
      (.error (.refused (Call.dispose failing).name) { session with editor := editor })
  /-- there was no ledger to dispose of -/
  | bare (inactive : session.ledger = none) (editor : Editor)
    (underwent : session.editor.Underwent editor (.ofEnding session.subscriptions)) :
    Deactivated session
      (.ok none { disconnect session with editor := editor, subscriptions := [] })
  /-- the ledger could not be disposed of -/
  | refused (ledger : Ledger) (active : session.ledger = some ledger) (editor : Editor)
    (underwent : session.editor.Underwent editor (.ofEnding session.subscriptions))
    (fault : SessionFault) (desk : Desk)
    (answered : Desk.Answered ledger editor .dispose false desk) :
    Deactivated session (.error fault { session with toDesk := desk, subscriptions := [] })
  | complete (ledger : Ledger) (active : session.ledger = some ledger) (editor : Editor)
    (underwent : session.editor.Underwent editor (.ofEnding session.subscriptions)) (desk : Desk)
    (answered : Desk.Answered ledger editor .dispose true desk) (entry : JournalEntry) :
    Deactivated session (.ok desk.ledger
      { disconnect session with editor := desk.editor.note entry, subscriptions := [] })

/-- What a deactivation does once the subscriptions have ended. -/
def release (active : Bool) (entry : JournalEntry) : Action (Option Ledger) := do
  modify fun session => { session with subscriptions := [] }
  if active then onDesk Desk.dispose
  let closed := (← get).ledger
  modify disconnect
  onDesk (Desk.note entry)
  return closed

/-- A deactivation ends the subscriptions on record first; all else waits for that. -/
theorem deactivate_eq (session : Session) :
    deactivate session = (onEditor (disposeAll session.subscriptions) >>= fun _ =>
      release session.isActive (.deactivated session.options.collectionName)) session := rfl

theorem release_of_bare (session : Session) (bare : session.ledger = none) (entry : JournalEntry) :
    release false entry session = .ok none
      { disconnect session with editor := session.editor.note entry, subscriptions := [] } :=
  congrArg (EStateM.Result.ok · _) bare

/-- If the ledger cannot be disposed of, the session keeps it, but forgets its subscriptions. -/
theorem release_of_error {session : Session} {fault : SessionFault} {desk : Desk}
    (failed : Desk.dispose session.toDesk = .error fault desk) (entry : JournalEntry) :
    release true entry session =
      .error fault { session with toDesk := desk, subscriptions := [] } := by
  have forgotten : (modify fun session => { session with subscriptions := [] } : Action PUnit)
      session = .ok PUnit.unit { session with subscriptions := [] } := rfl
  have stopped : onDesk Desk.dispose { session with subscriptions := [] } =
      .error fault { session with toDesk := desk, subscriptions := [] } := by
    simp only [onDesk, failed]
  exact (bind_of_ok forgotten).trans (bind_of_error stopped)

theorem release_of_ok {session : Session} {desk : Desk}
    (disposed : Desk.dispose session.toDesk = .ok () desk) (entry : JournalEntry) :
    release true entry session = .ok desk.ledger
      { disconnect session with editor := desk.editor.note entry, subscriptions := [] } := by
  have forgotten : (modify fun session => { session with subscriptions := [] } : Action PUnit)
      session = .ok PUnit.unit { session with subscriptions := [] } := rfl
  have returned : onDesk Desk.dispose { session with subscriptions := [] } =
      .ok () { session with toDesk := desk, subscriptions := [] } := by
    simp only [onDesk, disposed]
  exact (bind_of_ok forgotten).trans (bind_of_ok returned)

/-- Every deactivation comes to one of the outcomes. -/
theorem deactivated (session : Session) : Deactivated session (deactivate session) := by
  rw [deactivate_eq]
  rcases disposeAll_cases session.subscriptions session.editor with
    ⟨ended, failing, rest, editor, split, failed, underwent⟩ | ⟨editor, ended, underwent⟩
  · rw [bind_of_error (onEditor_of_error failed)]
    exact .halted ended failing rest split editor underwent
  rw [bind_of_ok (onEditor_of_ok ended)]
  rcases Option.eq_none_or_eq_some session.ledger with bare | ⟨ledger, active⟩
  · have inactive : session.isActive = false := by rw [isActive, bare]; rfl
    rw [inactive, release_of_bare { session with editor := editor } bare]
    exact .bare bare _ (underwent.note _)
  · have isActive : session.isActive = true := by rw [isActive, active]; rfl
    have atDesk : Desk.dispose ⟨session.ledger, editor⟩ = Desk.dispose ⟨some ledger, editor⟩ := by
      rw [active]
    rw [isActive]
    rcases Desk.dispose_cases ledger editor with
      ⟨fault, desk, failed, answered⟩ | ⟨desk, disposed, answered⟩
    · rw [release_of_error (atDesk.trans failed)]
      exact .refused ledger active editor underwent fault desk answered
    · rw [release_of_ok (atDesk.trans disposed)]
      exact .complete ledger active editor underwent desk answered _

end Session

end IgniterLint
