/-
This file keeps count of subscriptions. A subscription is numbered by how many were made before it,
so no number in use goes beyond those the editor has given: not among the subscriptions, not among
those that a session recorded or handed out, and not among those that ended, as long as nothing is
ended that was not made. A new subscription therefore never has the number of one that ended.
-/

import IgniterLint.Proofs.Session.Outcome

namespace IgniterLint

namespace Session

/-- All that is known of subscriptions is about those that the editor made. -/
structure Numbered (session : Session) : Prop where
  made : ∀ subscription ∈ session.editor.subscriptions,
    subscription.number < session.editor.subscriptions.length
  disposed : ∀ number ∈ session.editor.disposed, number < session.editor.subscriptions.length
  recorded : ∀ subscription ∈ session.subscriptions, subscription ∈ session.editor.subscriptions
  handed : ∀ subscription ∈ session.handed, subscription ∈ session.editor.subscriptions

theorem numbered_fresh (options : Options) : (fresh options).Numbered := by
  constructor <;> exact fun _ member => absurd member List.not_mem_nil

/-- Numbering is kept if what is made gets a number in range, what is ended was made before, and
what is recorded or handed out was so before or has just been made. -/
theorem Numbered.of_underwent {before after : Session} (numbered : before.Numbered)
    {effect : Editor.Effect} (underwent : before.editor.Underwent after.editor effect)
    (made : ∀ subscription ∈ effect.made,
      subscription.number < before.editor.subscriptions.length + effect.made.length)
    (ended : ∀ number ∈ effect.ended, number < before.editor.subscriptions.length)
    (recorded : ∀ subscription ∈ after.subscriptions,
      subscription ∈ before.subscriptions ∨ subscription ∈ effect.made)
    (handed : ∀ subscription ∈ after.handed,
      subscription ∈ before.handed ∨ subscription ∈ effect.made) : after.Numbered := by
  have length : after.editor.subscriptions.length =
      before.editor.subscriptions.length + effect.made.length := by
    rw [underwent.subscriptions, List.length_append]
  constructor
  · intro subscription member
    rw [underwent.subscriptions, List.mem_append] at member
    rw [length]
    rcases member with earlier | new
    · exact Nat.lt_add_right _ (numbered.made subscription earlier)
    · exact made subscription new
  · intro number member
    rw [underwent.disposed, List.mem_append] at member
    rw [length]
    rcases member with new | earlier
    · exact Nat.lt_add_right _ (ended number new)
    · exact Nat.lt_add_right _ (numbered.disposed number earlier)
  · intro subscription member
    rw [underwent.subscriptions, List.mem_append]
    exact (recorded subscription member).imp_left (numbered.recorded subscription)
  · intro subscription member
    rw [underwent.subscriptions, List.mem_append]
    exact (handed subscription member).imp_left (numbered.handed subscription)

/-- Calls that neither make nor end a subscription keep the numbering. -/
theorem Numbered.of_idle {before after : Session} (numbered : before.Numbered)
    {calls : List CallRecord} {collections : Nat}
    (underwent : before.editor.Underwent after.editor ⟨calls, collections, [], []⟩)
    (recorded : after.subscriptions = before.subscriptions)
    (handed : after.handed = before.handed) : after.Numbered := by
  refine numbered.of_underwent underwent ?_ ?_ ?_ ?_
  · exact fun _ member => absurd member List.not_mem_nil
  · exact fun _ member => absurd member List.not_mem_nil
  · exact fun _ member => Or.inl (recorded ▸ member)
  · exact fun _ member => Or.inl (handed ▸ member)

theorem Halted.number_lt {number : Nat} {commandId call : String} {calls : List CallRecord}
    {made : List Subscription} (halted : Halted number commandId call calls made) :
    ∀ subscription ∈ made, subscription.number < number + made.length := by
  cases halted <;> simp

theorem number_lt_of_mem_subscriptionsFrom (number : Nat) (commandId : String) :
    ∀ subscription ∈ subscriptionsFrom number commandId,
      subscription.number < number + (subscriptionsFrom number commandId).length := by
  simp [subscriptionsFrom]

/-- However far an activation gets, what it makes is numbered on from what was there. -/
theorem numbered_activate {session : Session} (numbered : session.Numbered) :
    (stateAfter activate session).Numbered := by
  have outcome := activated session
  unfold stateAfter
  generalize activate session = result at outcome ⊢
  cases outcome with
  | already => exact numbered
  | refused _ editor underwent => exact numbered.of_idle underwent rfl rfl
  | halted _ collection _ _ made halted editor underwent =>
    exact numbered.of_underwent underwent halted.number_lt (by simp) (fun _ => Or.inl)
      fun _ => Or.inl
  | complete _ collection subscriptions isFrom editor underwent =>
    subst isFrom
    exact numbered.of_underwent underwent (number_lt_of_mem_subscriptionsFrom _ _) (by simp)
      (fun _ => Or.inr) fun _ => Or.inr

/-- Ending what is on record uses up no number that was not given. -/
theorem Numbered.ended_lt {session : Session} (numbered : session.Numbered)
    {subscriptions : List Subscription}
    (recorded : ∀ subscription ∈ subscriptions, subscription ∈ session.subscriptions) :
    ∀ number ∈ (Editor.Effect.ofEnding subscriptions).ended,
      number < session.editor.subscriptions.length := by
  intro number member
  obtain ⟨subscription, ended, rfl⟩ := List.mem_map.mp (List.mem_reverse.mp member)
  exact numbered.made subscription (numbered.recorded subscription (recorded subscription ended))

theorem Numbered.forget {session : Session} (numbered : session.Numbered) {editor : Editor}
    (underwent : session.editor.Underwent editor (.ofEnding session.subscriptions)) :
    Numbered { session with editor := editor, subscriptions := [] } := by
  refine numbered.of_underwent underwent ?_ (numbered.ended_lt fun _ => id) ?_ fun _ => Or.inl
  · exact fun _ member => absurd member List.not_mem_nil
  · exact fun _ member => absurd member List.not_mem_nil

/-- However far a deactivation gets, it ends only what was on record. -/
theorem numbered_deactivate {session : Session} (numbered : session.Numbered) :
    (stateAfter deactivate session).Numbered := by
  have outcome := deactivated session
  unfold stateAfter
  generalize deactivate session = result at outcome ⊢
  cases outcome with
  | halted ended failing rest split editor underwent =>
    refine numbered.of_underwent underwent (fun _ member => absurd member List.not_mem_nil) ?_
      (fun _ => Or.inl) fun _ => Or.inl
    have recorded : ∀ subscription ∈ ended, subscription ∈ session.subscriptions := by
      intro subscription member
      rw [split]
      exact List.mem_append_left _ member
    have failingRecorded : failing ∈ session.subscriptions := by simp [split]
    intro number member
    rcases List.mem_cons.mp member with rfl | earlier
    · exact numbered.made failing (numbered.recorded failing failingRecorded)
    · exact numbered.ended_lt recorded number earlier
  | bare _ editor underwent =>
    have forgotten := numbered.forget underwent
    exact ⟨forgotten.made, forgotten.disposed, forgotten.recorded, forgotten.handed⟩
  | refused _ _ editor underwent _ desk answered =>
    obtain ⟨calls, told⟩ := answered.underwent
    exact (numbered.forget underwent).of_idle told rfl rfl
  | complete _ _ editor underwent desk answered entry =>
    obtain ⟨calls, told⟩ := answered.underwent
    exact (numbered.forget underwent).of_idle (told.note entry) rfl rfl

theorem numbered_work {before after : Session} (work : Work before after)
    (numbered : before.Numbered) : after.Numbered := by
  cases work with
  | idle editor calls _ underwent => exact numbered.of_idle underwent rfl rfl
  | ledger desk asked =>
    obtain ⟨request, rfl⟩ := asked
    obtain ⟨calls, underwent⟩ := before.toDesk.underwent_answer request
    exact numbered.of_idle underwent rfl rfl

/-- The end of a subscription that was made uses up its own number only. -/
theorem numbered_ending {session : Session} (numbered : session.Numbered)
    {subscription : Subscription} (made : subscription ∈ session.editor.subscriptions) :
    (session.ending subscription).Numbered := by
  rw [ending, stateAfter_onEditor]
  obtain ⟨returned, underwent⟩ := session.editor.underwent_dispose subscription
  refine numbered.of_underwent underwent (by simp) ?_ (fun _ => Or.inl) fun _ => Or.inl
  intro number member
  rw [List.mem_singleton.mp member]
  exact numbered.made subscription made

/-- A request can end only what the session recorded or handed out, so it keeps the numbering. -/
theorem numbered_answer (request : Request) : Leads (Keeps Numbered) (answer request) := by
  refine leads_answer (R := Keeps Numbered) (fun _ _ => numbered_work) ?_ request ?_ ?_ ?_
  · intro session subscription isHanded numbered
    exact numbered_ending numbered (numbered.handed subscription isHanded)
  · exact fun _ session => numbered_activate
  · exact fun _ session => numbered_deactivate
  · intro plan _ session numbered
    exact ⟨numbered.made, numbered.disposed, numbered.recorded, numbered.handed⟩

/-- Whatever happens to a session, subscriptions stay numbered, provided that only those are ended
that had been made: one ended ahead of its time would use up the number of a later one. -/
theorem numbered_course {session : Session} (numbered : session.Numbered)
    {occurrences : List Occurrence} (endsMade : session.EndsMade occurrences) :
    (session.course occurrences).Numbered := by
  induction occurrences generalizing session with
  | nil => exact numbered
  | cons occurrence rest inductionHypothesis =>
    cases occurrence with
    | asked request =>
      exact inductionHypothesis (numbered_answer request session numbered) endsMade
    | ended subscription =>
      exact inductionHypothesis (numbered_ending numbered endsMade.1) endsMade.2

end Session

end IgniterLint
