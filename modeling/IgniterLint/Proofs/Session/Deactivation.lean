/-
This file follows a deactivation that may be refused half way, and the attempts after it. An attempt
that fails leaves the session active with the ledger it had, so that nothing stands in the way of
another. An attempt that returns has ended what was on record and leaves a closed ledger. It may
have found the ledger closed already, by its user or by an earlier request, and then it makes no
call on the collection. What it relies on is that a ledger of a session is never closed without a
clearing of its collection that returned; this is kept by everything that happens to the session.
-/

import IgniterLint.Proofs.Session.Activation
import IgniterLint.Proofs.Session.Lifecycle
import IgniterLint.Proofs.Session.Mirror

namespace IgniterLint

/-! ### Closed ledgers -/

/-- The ledger is empty, and a clearing of its publisher is among the calls. -/
structure Ledger.Clean (ledger : Ledger) (calls : List CallRecord) : Prop where
  empty : ledger.entries = []
  cleared : ∀ collection, ledger.publisher = some collection → ⟨.clear collection, true⟩ ∈ calls

theorem Ledger.Clean.append {ledger : Ledger} {calls : List CallRecord} (clean : ledger.Clean calls)
    (more : List CallRecord) : ledger.Clean (calls ++ more) :=
  ⟨clean.empty, fun collection isPublisher =>
    List.mem_append_left more (clean.cleared collection isPublisher)⟩

namespace Desk

/-- The ledger on the desk is clean if it is closed. -/
def CleanIfClosed (desk : Desk) : Prop :=
  ∀ ledger, desk.ledger = some ledger → ledger.disposed = true → ledger.Clean desk.editor.calls

theorem cleanIfClosed_of_open (ledger : Ledger) (isOpen : ledger.disposed = false)
    (editor : Editor) : CleanIfClosed ⟨some ledger, editor⟩ := by
  intro other onDesk closed
  obtain rfl : ledger = other := Option.some.inj onDesk
  exact absurd (isOpen.symm.trans closed) Bool.false_ne_true

/-- Calls do not matter, nor does it matter if the ledger is dropped. -/
theorem CleanIfClosed.of_underwent {desk later : Desk} (clean : desk.CleanIfClosed)
    {effect : Editor.Effect} (underwent : desk.editor.Underwent later.editor effect)
    (kept : ∀ ledger, later.ledger = some ledger → desk.ledger = some ledger) :
    later.CleanIfClosed := by
  intro ledger onDesk closed
  rw [underwent.calls]
  exact (clean ledger (kept ledger onDesk) closed).append effect.calls

theorem CleanIfClosed.of_answered {ledger : Ledger} {editor : Editor} {request : Request}
    {returned : Bool} {desk : Desk} (clean : CleanIfClosed ⟨some ledger, editor⟩)
    (answered : Answered ledger editor request returned desk) : desk.CleanIfClosed := by
  cases answered with
  | idle => exact clean
  | replaced identity diagnostics isOpen _ after =>
    exact cleanIfClosed_of_open (ledger.insert identity diagnostics) isOpen after
  | deleted identity isOpen _ _ after =>
    exact cleanIfClosed_of_open (ledger.erase identity) isOpen after
  | disposed isOpen _ after told =>
    intro left onDesk closed
    obtain rfl := Option.some.inj onDesk
    obtain rfl : returned = true := closed
    refine ⟨rfl, fun collection isPublisher => ?_⟩
    have same : ledger.publisher = some collection := isPublisher
    show _ ∈ after.calls
    rw [told.underwent.calls, same]
    exact List.mem_append_right _ List.mem_cons_self

theorem cleanIfClosed_answer (request : Request) : Leads (Keeps CleanIfClosed) (answer request) :=
  leads_answer request (fun _ => id) fun _ _ _ _ answered clean => clean.of_answered answered

/-- A disposal that was refused leaves the ledger as it is without its entries. -/
theorem Answered.ledger_of_refused {ledger : Ledger} {editor : Editor} {desk : Desk}
    (answered : Answered ledger editor .dispose false desk) :
    desk.ledger = some ledger.clear := by
  cases answered with
  | idle _ _ idle => cases idle
  | disposed isOpen =>
    show some { ledger.clear with disposed := false } = some ledger.clear
    rw [← isOpen]
    rfl

/-- An editor that refuses nothing lets a ledger be disposed of. -/
theorem exists_dispose_of_unhindered (ledger : Ledger) {editor : Editor}
    (unhindered : editor.refuses = fun _ _ => false) :
    ∃ desk, dispose ⟨some ledger, editor⟩ = .ok () desk := by
  rcases dispose_cases ledger editor with ⟨fault, desk, failed, answered⟩ | ⟨desk, disposed, _⟩
  · cases answered with
    | idle _ _ idle => cases idle
    | disposed _ _ _ told =>
      have decided := told.decided
      simp [unhindered] at decided
  · exact ⟨desk, disposed⟩

end Desk

namespace Session

theorem cleanIfClosed_activate (session : Session) (clean : session.toDesk.CleanIfClosed) :
    (stateAfter activate session).toDesk.CleanIfClosed := by
  have outcome := activated session
  unfold stateAfter
  generalize activate session = result at outcome ⊢
  cases outcome with
  | already => exact clean
  | refused _ editor underwent => exact clean.of_underwent underwent fun _ => id
  | halted _ _ _ _ _ _ editor => exact Desk.cleanIfClosed_of_open _ rfl editor
  | complete _ _ _ _ editor => exact Desk.cleanIfClosed_of_open _ rfl editor

theorem cleanIfClosed_deactivate (session : Session) (clean : session.toDesk.CleanIfClosed) :
    (stateAfter deactivate session).toDesk.CleanIfClosed := by
  have outcome := deactivated session
  unfold stateAfter
  generalize deactivate session = result at outcome ⊢
  cases outcome with
  | halted _ _ _ _ editor underwent => exact clean.of_underwent underwent fun _ => id
  | bare => exact fun _ none => absurd none (Option.some_ne_none _).symm
  | refused ledger active editor underwent _ desk answered =>
    have ended : Desk.CleanIfClosed ⟨some ledger, editor⟩ :=
      clean.of_underwent underwent fun _ same => active.trans same
    exact ended.of_answered answered
  | complete => exact fun _ none => absurd none (Option.some_ne_none _).symm

theorem cleanIfClosed_work {before after : Session} (work : Work before after)
    (clean : before.toDesk.CleanIfClosed) : after.toDesk.CleanIfClosed := by
  cases work with
  | idle editor _ _ underwent => exact clean.of_underwent underwent fun _ => id
  | ledger desk asked =>
    obtain ⟨request, rfl⟩ := asked
    exact Desk.cleanIfClosed_answer request before.toDesk clean

theorem cleanIfClosed_ending (session : Session) (subscription : Subscription)
    (clean : session.toDesk.CleanIfClosed) :
    (session.ending subscription).toDesk.CleanIfClosed := by
  rw [ending, stateAfter_onEditor]
  obtain ⟨returned, underwent⟩ := session.editor.underwent_dispose subscription
  exact clean.of_underwent underwent fun _ => id

theorem cleanIfClosed_course (options : Options) (occurrences : List Occurrence) :
    ((fresh options).course occurrences).toDesk.CleanIfClosed :=
  course_induction (motive := fun session => session.toDesk.CleanIfClosed) _ _
    (fun _ none => absurd none (Option.some_ne_none _).symm) (fun _ _ => cleanIfClosed_work)
    cleanIfClosed_activate cleanIfClosed_deactivate cleanIfClosed_ending fun _ _ => id

/-! ### Attempts -/

theorem exists_disposeAll_of_unhindered (subscriptions : List Subscription) (editor : Editor)
    (unhindered : editor.refuses = fun _ _ => false) :
    ∃ after, disposeAll subscriptions editor = .ok () after ∧
      after.refuses = fun _ _ => false := by
  induction subscriptions generalizing editor with
  | nil => exact ⟨editor, rfl, unhindered⟩
  | cons subscription rest inductionHypothesis =>
    obtain ⟨next, ended, same⟩ : ∃ next, Editor.dispose subscription editor = .ok () next ∧
        next.refuses = editor.refuses :=
      ⟨_, Editor.perform_of_allowed (congrFun (congrFun unhindered _) _), rfl⟩
    obtain ⟨after, returned, still⟩ := inductionHypothesis next (same.trans unhindered)
    exact ⟨after, (bind_of_ok ended).trans returned, still⟩

/-- As long as nothing is refused, a deactivation returns. -/
theorem exists_deactivate_of_unhindered {session : Session}
    (unhindered : session.editor.refuses = fun _ _ => false) :
    ∃ closed after, deactivate session = .ok closed after := by
  obtain ⟨editor, ended, still⟩ :=
    exists_disposeAll_of_unhindered session.subscriptions session.editor unhindered
  rw [deactivate_eq, bind_of_ok (onEditor_of_ok ended)]
  rcases Option.eq_none_or_eq_some session.ledger with bare | ⟨ledger, active⟩
  · have inactive : session.isActive = false := by rw [isActive, bare]; rfl
    rw [inactive, release_of_bare { session with editor := editor } bare]
    exact ⟨_, _, rfl⟩
  · have isActive : session.isActive = true := by rw [isActive, active]; rfl
    obtain ⟨desk, disposed⟩ := Desk.exists_dispose_of_unhindered ledger still
    rw [← active] at disposed
    rw [isActive, release_of_ok disposed]
    exact ⟨_, _, rfl⟩

/-- What a deactivation that failed leaves: an active session that is wired as it was, with the
ledger that it had, emptied at most, and ready for another attempt. -/
structure Interrupted (before after : Session) : Prop where
  active : after.isActive = true
  steady : Steady before after
  ledger : after.ledger = before.ledger ∨ after.ledger = before.ledger.map Ledger.clear
  retry : ∃ closed later, deactivate after.unhindered = .ok closed later

/-- What a deactivation that returned leaves: a session that is down, all its subscriptions ended
just now, and its ledger closed and empty, with a clearing of its collection on record. -/
structure TornDown (before : Session) (closed : Option Ledger) (after : Session) : Prop where
  down : after.Down
  ended : ∃ calls, after.editor.calls = before.editor.calls ++ calls ∧
    ∀ subscription ∈ before.subscriptions, ⟨.dispose subscription, true⟩ ∈ calls
  same : closed.map Ledger.label = before.ledger.map Ledger.label
  closed : ∀ ledger, closed = some ledger → ledger.disposed = true ∧ ledger.entries = [] ∧
    ∃ collection, ledger.publisher = some collection ∧
      ⟨.clear collection, true⟩ ∈ after.editor.calls

/-- A deactivation came to its end, or it can be tried again. -/
inductive Concluded (session : Session) :
    EStateM.Result SessionFault Session (Option Ledger) → Prop
  | returned (closed : Option Ledger) (after : Session)
    (tornDown : TornDown session closed after) : Concluded session (.ok closed after)
  | failed (fault : SessionFault) (after : Session) (interrupted : Interrupted session after) :
    Concluded session (.error fault after)

theorem mem_ofEnding {subscriptions : List Subscription} {subscription : Subscription}
    (member : subscription ∈ subscriptions) :
    ⟨.dispose subscription, true⟩ ∈ (Editor.Effect.ofEnding subscriptions).calls :=
  List.mem_map_of_mem member

theorem concluded_deactivate {session : Session} (accounted : session.toDesk.Accounted)
    (clean : session.toDesk.CleanIfClosed) (bare : session.isActive = false → session.Down) :
    Concluded session (deactivate session) := by
  have outcome := deactivated session
  generalize deactivate session = result at outcome ⊢
  cases outcome with
  | halted ended failing rest split editor underwent =>
    -- There was something to end, so the session is active.
    have active : session.isActive = true := by
      refine eq_true_of_ne_false fun inactive => ?_
      exact absurd (split.symm.trans (bare inactive).subscriptions) (by simp)
    exact .failed _ _ ⟨active, steady_of_editor session editor, Or.inl rfl,
      exists_deactivate_of_unhindered rfl⟩
  | bare inactive editor underwent =>
    refine .returned _ _ ⟨⟨rfl, rfl, rfl, rfl⟩, ⟨_, underwent.calls, fun _ => mem_ofEnding⟩, ?_, ?_⟩
    · rw [inactive]
    · exact fun _ none => absurd none (Option.some_ne_none _).symm
  | refused ledger active editor underwent fault desk answered =>
    have emptied := answered.ledger_of_refused
    refine .failed _ _ ⟨?_, ⟨rfl, rfl, rfl, ?_, Or.inr rfl⟩, Or.inr ?_,
      exists_deactivate_of_unhindered rfl⟩
    · show desk.ledger.isSome = true
      rw [emptied]
      rfl
    · rw [active]
      exact answered.label_eq
    · rw [active]
      exact emptied
  | complete ledger active editor underwent desk answered entry =>
    obtain ⟨calls, underwentDisposal⟩ := answered.underwent
    have allCalls : desk.editor.calls = session.editor.calls ++ _ :=
      (underwent.andThen underwentDisposal).calls
    refine .returned _ _ ⟨⟨rfl, rfl, rfl, rfl⟩, ⟨_, allCalls, fun _ member => ?_⟩, ?_,
      fun left isLeft => ?_⟩
    · exact List.mem_append_left calls (mem_ofEnding member)
    · rw [active]
      exact answered.label_eq
    · have ended : Desk.CleanIfClosed ⟨some ledger, editor⟩ :=
        clean.of_underwent underwent fun _ same => active.trans same
      have isClosed := answered.disposed_of_returned left isLeft
      have cleared := ended.of_answered answered left isLeft isClosed
      obtain ⟨collection, isPublisher, _⟩ := accounted.publisher ledger active
      have label := answered.label_eq
      rw [isLeft] at label
      have same : left.publisher = some collection := by
        rw [← isPublisher]
        exact congrArg Prod.snd (Option.some.inj label)
      exact ⟨isClosed, cleared.empty, collection, same, cleared.cleared collection same⟩

/-- Nothing is called upon when there is nothing to end. -/
theorem deactivate_of_down {session : Session} (down : session.Down) :
    ∃ after, deactivate session = .ok none after ∧
      after.editor.calls = session.editor.calls := by
  have ended : disposeAll session.subscriptions session.editor = .ok () session.editor := by
    rw [down.subscriptions]
    rfl
  have inactive : session.isActive = false := by rw [isActive, down.ledger]; rfl
  rw [deactivate_eq, bind_of_ok (onEditor_of_ok ended), inactive, release_of_bare _ down.ledger]
  exact ⟨_, rfl, rfl⟩

/-- Whatever happened to a session, and whatever calls are refused on the way, a deactivation that
fails leaves it active with the same ledger, and one that returns has torn it down. If the session
is not active, a deactivation returns without a call. -/
theorem deactivate_retried_or_complete (options : Options) (occurrences : List Occurrence) :
    Concluded ((fresh options).course occurrences)
      (deactivate ((fresh options).course occurrences)) ∧
    (((fresh options).course occurrences).isActive = false →
      ∃ after, deactivate ((fresh options).course occurrences) = .ok none after ∧
        after.editor.calls = ((fresh options).course occurrences).editor.calls) := by
  have bare := (standing_course options occurrences).down_of_inactive
  refine ⟨concluded_deactivate (accounted_course options occurrences)
    (cleanIfClosed_course options occurrences) bare, fun inactive => ?_⟩
  exact deactivate_of_down (bare inactive)

/-- A plan that refuses to clear collections. -/
def refuseClears : Nat → Call → Bool
  | _, .clear _ => true
  | _, _ => false

/-- A session is activated, and collections are not cleared from then on. -/
def uncleared : List Occurrence := [.asked .activate, .asked (.refuse refuseClears)]

/-- After a deactivation that was refused, collections are cleared again. -/
def clearedAgain : List Occurrence :=
  uncleared ++ [.asked .deactivate, .asked (.refuse fun _ _ => false)]

theorem deactivate_retried_or_complete_uncleared :
    (∃ fault after, deactivate ((fresh .defaults).course uncleared) = .error fault after ∧
      Interrupted ((fresh .defaults).course uncleared) after) ∧
    (∃ closed after, deactivate ((fresh .defaults).course clearedAgain) = .ok closed after ∧
      TornDown ((fresh .defaults).course clearedAgain) closed after) ∧
    ∃ after, deactivate (fresh .defaults) = .ok none after ∧ after.editor.calls = [] := by
  have isRefused : returns deactivate ((fresh .defaults).course uncleared) = false := by
    decide +kernel
  have isGranted : returns deactivate ((fresh .defaults).course clearedAgain) = true := by
    decide +kernel
  obtain ⟨fault, after, failed⟩ := returns_eq_false_iff.mp isRefused
  obtain ⟨closed, later, returned⟩ := returns_eq_true_iff.mp isGranted
  have first := (deactivate_retried_or_complete .defaults uncleared).1
  have second := (deactivate_retried_or_complete .defaults clearedAgain).1
  rw [failed] at first
  rw [returned] at second
  cases first with
  | failed _ _ interrupted =>
    cases second with
    | returned _ _ tornDown =>
      exact ⟨⟨fault, after, failed, interrupted⟩, ⟨closed, later, returned, tornDown⟩,
        (deactivate_retried_or_complete .defaults []).2 rfl⟩

end Session

end IgniterLint
