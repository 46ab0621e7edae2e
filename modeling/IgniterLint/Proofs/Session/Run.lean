/-
This file takes the run of a session apart. Apart from activating and deactivating it, little can
happen to a session: its ledger is asked for something, the editor logs, is asked for its document
and turns to another one, and a subscription is ended by its holder. The handlers and the loop over
the subscriptions are followed once, here. Whatever relation holds along each of these is then one
that every request leads along, and what each of them keeps is kept by every run.
-/

import IgniterLint.Proofs.Editor
import IgniterLint.Session

namespace IgniterLint

open Relation (ReflTransGen)

/-- The ledger on a desk is asked for something. -/
def Desk.Move (before after : Desk) : Prop := ∃ request, after = stateAfter (answer request) before

theorem Desk.stateAfter_onEditor {α : Type} (action : EStateM SessionFault Editor α) (desk : Desk) :
    stateAfter (onEditor action) desk = { desk with editor := stateAfter action desk.editor } := by
  unfold stateAfter onEditor
  cases action desk.editor <;> rfl

/-- Filing is one of the things that a ledger can be asked for. -/
theorem Desk.leads_replace (identity : Text) (diagnostics : List Diagnostic) :
    Leads (ReflTransGen Move) (replace identity diagnostics) := by
  intro desk
  refine .single ⟨.replace identity diagnostics, ?_⟩
  exact (stateAfter_bind_of_idle _ (fun _ _ => rfl) desk).symm

/-- Whether the check of a document fails, is not filed or is filed, the ledger is asked for filing
at most. -/
theorem Engine.leads_analyze (engine : Engine) (document : Document) :
    Leads (ReflTransGen Desk.Move) (engine.analyze document) := by
  unfold analyze
  split
  · exact leads_throw _
  · next diagnostics _ =>
    refine leads_get.bind fun desk => ?_
    refine Leads.ite ?_ (leads_pure _)
    exact (Desk.leads_replace document.identity diagnostics).bind fun _ => leads_pure _

namespace Session

/-- What a session does at a time to handle an event or to answer for its ledger. -/
inductive Work (session : Session) : Session → Prop
  /-- the editor is asked for its document at most -/
  | idle (editor : Editor) (calls : List CallRecord)
    (quiet : ∀ record ∈ calls, record.call = .activeDocument)
    (underwent : session.editor.Underwent editor ⟨calls, 0, [], []⟩) :
    Work session { session with editor := editor }
  /-- the ledger is asked for something -/
  | ledger (desk : Desk) (asked : session.toDesk.Move desk) :
    Work session { session with toDesk := desk }

/-- The session after a subscription was ended by its holder. -/
def ending (subscription : Subscription) (session : Session) : Session :=
  stateAfter (onEditor (Editor.dispose subscription)) session

/-- The session at an editor that refuses calls by this plan. -/
def refusing (plan : Nat → Call → Bool) (session : Session) : Session :=
  { session with editor := { session.editor with refuses := plan } }

theorem stateAfter_onDesk {α : Type} (action : Desk.Action α) (session : Session) :
    stateAfter (onDesk action) session =
      { session with toDesk := stateAfter action session.toDesk } := by
  unfold stateAfter onDesk
  cases action session.toDesk <;> rfl

theorem stateAfter_onEditor {α : Type} (action : EStateM SessionFault Editor α)
    (session : Session) :
    stateAfter (onEditor action) session =
      { session with editor := stateAfter action session.editor } := by
  unfold onEditor
  rw [stateAfter_onDesk, Desk.stateAfter_onEditor]

/-- What is asked of the ledger on a desk is work of the session at that desk. -/
theorem leads_onDesk {α : Type} {action : Desk.Action α}
    (asked : Leads (ReflTransGen Desk.Move) action) :
    Leads (ReflTransGen Work) (onDesk action) := by
  intro session
  rw [stateAfter_onDesk]
  refine ReflTransGen.lift (fun desk => { session with toDesk := desk }) ?_ _ _
    (asked session.toDesk)
  intro before after step
  exact Work.ledger after step

theorem leads_note (entry : JournalEntry) :
    Leads (ReflTransGen Work) (onDesk (Desk.note entry)) := by
  intro session
  exact .single (.idle _ [] (by simp) (session.editor.underwent_note entry))

theorem leads_activeDocument : Leads (ReflTransGen Work) (onEditor Editor.activeDocument) := by
  intro session
  rw [stateAfter_onEditor]
  obtain ⟨returned, underwent⟩ := session.editor.underwent_activeDocument
  exact .single (.idle _ _ (by simp) underwent)

/-- A document that reaches the session is skipped, or checked and filed, and all this is work. -/
theorem leads_receive (document : Document) : Leads (ReflTransGen Work) (receive document) := by
  unfold receive
  refine leads_get.bind fun session => ?_
  split
  · exact leads_throw _
  · next engine _ =>
    refine .ite (.ite (leads_note _) ?_) (leads_pure _)
    exact (leads_onDesk (engine.leads_analyze document)).bind fun diagnostics => leads_note _

theorem leads_runCommand : Leads (ReflTransGen Work) runCommand := by
  unfold runCommand
  refine leads_get.bind fun session => ?_
  refine Leads.ite ?_ (leads_throw _)
  refine leads_activeDocument.bind fun document => ?_
  split
  · exact leads_note _
  · exact leads_receive _

/-- An event is handled once for each standing subscription, and the loop over them is work too. -/
theorem leads_fire (trigger : Trigger) (document : Document) :
    Leads (ReflTransGen Work) (fire trigger document) := by
  unfold fire
  refine leads_get.bind fun session => ?_
  refine (Leads.forM _ _ fun _ => leads_receive document).bind fun _ => ?_
  exact leads_get.bind fun _ => leads_pure _

theorem leads_fireCommand (id : String) : Leads (ReflTransGen Work) (fireCommand id) := by
  unfold fireCommand
  refine leads_get.bind fun session => ?_
  refine Leads.ite (leads_pure _) ?_
  exact leads_runCommand.bind fun _ => leads_pure _

/-! ### Requests -/

/-- Counting from either end, an index finds only what was handed out. -/
theorem mem_handed_of_handedAt {session : Session} {index : Int} {subscription : Subscription}
    (found : session.handedAt index = .ok subscription) : subscription ∈ session.handed := by
  unfold handedAt at found
  split at found
  · exact absurd found (by simp)
  · generalize (if index < 0 then index + (session.handed.length : Int) else index) = place at found
    dsimp only at found
    split at found
    · next handed =>
      obtain rfl := Except.ok.inj found
      rw [Option.ite_none_left_eq_some] at handed
      exact List.mem_of_getElem? handed.2
    · exact absurd found (by simp)

/-- Along a preorder that contains the work of a session, the end of a subscription by its holder,
and whatever else the request asks for, the request leads. -/
theorem leads_answer {R : Session → Session → Prop} [IsPreorder Session R]
    (worked : ∀ before after, Work before after → R before after)
    (ended : ∀ session, ∀ subscription ∈ session.handed, R session (session.ending subscription))
    (request : Request) (activated : request = .activate → Leads R activate)
    (deactivated : request = .deactivate → Leads R deactivate)
    (refused : ∀ plan, request = .refuse plan → ∀ session, R session (session.refusing plan)) :
    Leads R (answer request) := by
  have working {α : Type} {action : Action α} (works : Leads (ReflTransGen Work) action) :
      Leads R action := by
    intro session
    have path := works session
    generalize stateAfter action session = after at path ⊢
    induction path with
    | refl => exact refl_of R _
    | tail _ step related => exact trans_of R related (worked _ _ step)
  cases request with
  | activate => exact (activated rfl).bind fun _ => leads_pure _
  | deactivate => exact (deactivated rfl).bind fun _ => leads_pure _
  | opened document => exact (working (leads_fire .opened document)).bind fun _ => leads_pure _
  | saved document => exact (working (leads_fire .saved document)).bind fun _ => leads_pure _
  | command id => exact (working (leads_fireCommand id)).bind fun _ => leads_pure _
  | face document =>
    refine (leads_modify fun session => worked _ _ ?_).bind fun _ => leads_pure _
    exact .idle _ [] (by simp) (Editor.underwent_of_same rfl rfl rfl rfl rfl)
  | receive document => exact (working (leads_receive document)).bind fun _ => leads_pure _
  | runCommand => exact (working leads_runCommand).bind fun _ => leads_pure _
  | disposeHanded index =>
    intro session
    unfold answer
    rw [stateAfter_bind]
    -- Looking up the index reads the session and leaves it as it is.
    show R session (stateAfter _ session)
    split
    · exact refl_of R session
    · next subscription found =>
      rw [stateAfter_bind_of_idle _ fun _ _ => rfl]
      exact ended session subscription (mem_handed_of_handedAt found)
  | ledger request =>
    have moved : Leads (ReflTransGen Desk.Move) (Desk.answer request) :=
      fun desk => .single ⟨request, rfl⟩
    exact (working (leads_onDesk moved)).bind fun _ => leads_pure _
  | refuse plan => exact (leads_modify (refused plan rfl)).bind fun _ => leads_pure _

/-! ### Runs -/

/-- The session after requests, whatever became of each. -/
def run (session : Session) (requests : List Request) : Session :=
  requests.foldl (fun session request => stateAfter (answer request) session) session

/-- What can happen around a session: something is asked of it, or a subscription is ended by
whoever holds it, be it one that was handed out by an earlier activation. -/
inductive Occurrence where
  | asked (request : Request)
  | ended (subscription : Subscription)

/-- The session after an occurrence. -/
def next (session : Session) : Occurrence → Session
  | .asked request => stateAfter (answer request) session
  | .ended subscription => session.ending subscription

/-- The session after a course of occurrences. -/
def course (session : Session) (occurrences : List Occurrence) : Session :=
  occurrences.foldl next session

theorem course_append_singleton (session : Session) (occurrences : List Occurrence)
    (occurrence : Occurrence) :
    session.course (occurrences ++ [occurrence]) =
      (session.course occurrences).next occurrence := by
  rw [course, List.foldl_append]
  rfl

/-- Nothing is ended in the course that the editor had not made by then: whoever ends a subscription
holds it. A course of requests alone is one of these. -/
def EndsMade (session : Session) : List Occurrence → Prop
  | [] => True
  | .asked request :: rest => (session.next (.asked request)).EndsMade rest
  | .ended subscription :: rest =>
    subscription ∈ session.editor.subscriptions ∧
      (session.next (.ended subscription)).EndsMade rest

/-- Along a preorder that contains the work of a session, the end of any subscription, new plans of
refusals, activation and deactivation, every occurrence leads. -/
theorem related_next {R : Session → Session → Prop} [IsPreorder Session R]
    (worked : ∀ before after, Work before after → R before after)
    (ended : ∀ session subscription, R session (session.ending subscription))
    (refused : ∀ session plan, R session (session.refusing plan)) (occurrence : Occurrence)
    (activated : occurrence = .asked .activate → Leads R activate)
    (deactivated : occurrence = .asked .deactivate → Leads R deactivate) (session : Session) :
    R session (session.next occurrence) := by
  cases occurrence with
  | asked request =>
    refine leads_answer worked (fun session subscription _ => ended session subscription) request
      (fun same => ?_) (fun same => ?_) (fun plan _ session => refused session plan) session
    · exact activated (congrArg _ same)
    · exact deactivated (congrArg _ same)
  | ended subscription => exact ended session subscription

/-- What the work of a session, its activation and deactivation, the end of a subscription and a new
plan of refusals keep is kept by every course. -/
theorem course_induction {motive : Session → Prop} (session : Session)
    (occurrences : List Occurrence) (start : motive session)
    (worked : ∀ before after, Work before after → motive before → motive after)
    (activated : ∀ before, motive before → motive (stateAfter activate before))
    (deactivated : ∀ before, motive before → motive (stateAfter deactivate before))
    (ended : ∀ before subscription, motive before → motive (before.ending subscription))
    (refused : ∀ before plan, motive before → motive (before.refusing plan)) :
    motive (session.course occurrences) :=
  List.foldlRecOn occurrences _ start fun before held occurrence _ =>
    related_next (R := Keeps motive) worked ended refused occurrence (fun _ => activated)
      (fun _ => deactivated) before held

end Session

end IgniterLint
