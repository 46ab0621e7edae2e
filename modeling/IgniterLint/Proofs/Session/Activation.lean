/-
This file settles when a failed activation leaves nothing behind. The session records its
subscriptions only when it has all of them, but it is active as soon as it has its collection. So a
refused collection changes nothing, and an activation of an active session changes nothing either.
But when one of the subscriptions is refused, the session is active without any on its record: it
cannot be activated again before it is deactivated, and those that had been made stay with the
editor for good.
-/

import IgniterLint.Proofs.Session.Numbering

namespace IgniterLint

namespace Session

/-- None of the subscriptions that came up in between still stands. -/
def LeavesNoneLive (before after : Session) : Prop :=
  ∀ subscription ∈ after.editor.subscriptions, subscription ∉ before.editor.subscriptions →
    after.editor.isLive subscription = false

/-- The session at an editor that refuses nothing from now on. -/
def unhindered (session : Session) : Session :=
  { session with editor := { session.editor with refuses := fun _ _ => false } }

/-- An activation left nothing behind: the session is as it was, none of the subscriptions made on
the way still stands, and if the session was not active, it can be activated later. -/
structure LeavesNothing (before after : Session) : Prop where
  unchanged : after = { before with editor := after.editor }
  noneLive : LeavesNoneLive before after
  retry : before.isActive = false →
    ∃ subscriptions later, activate after.unhindered = .ok subscriptions later

theorem exists_activate_unhindered (session : Session) (inactive : session.isActive = false) :
    ∃ subscriptions later, activate session.unhindered = .ok subscriptions later := by
  obtain ⟨⟨ledger, editor⟩, options, attached, engine, subscriptions, handed⟩ := session
  cases ledger with
  | none => exact ⟨_, _, rfl⟩
  | some ledger => exact absurd inactive (by simp [isActive])

theorem leavesNoneLive_of_same {before after : Session}
    (same : after.editor.subscriptions = before.editor.subscriptions) :
    LeavesNoneLive before after :=
  fun _ made new => absurd (same ▸ made) new

/-- What was made has a number that nothing before it had, so it was not ended. -/
theorem not_leavesNoneLive {before after : Session} (numbered : before.Numbered)
    {calls : List CallRecord} {collections : Nat} {made : List Subscription}
    (underwent : before.editor.Underwent after.editor ⟨calls, collections, made, []⟩)
    {subscription : Subscription} (isMade : subscription ∈ made)
    (number : subscription.number = before.editor.subscriptions.length) :
    ¬ LeavesNoneLive before after := by
  intro noneLive
  have inEditor : subscription ∈ after.editor.subscriptions := by
    rw [underwent.subscriptions]
    exact List.mem_append_right _ isMade
  have new : subscription ∉ before.editor.subscriptions := by
    intro earlier
    exact Nat.lt_irrefl _ (number ▸ numbered.made subscription earlier)
  have notEnded : subscription.number ∉ after.editor.disposed := by
    rw [underwent.disposed]
    intro ended
    exact Nat.lt_irrefl _ (number ▸ numbered.disposed _ ended)
  have ended := noneLive subscription inEditor new
  rw [Editor.isLive, Bool.not_eq_false', List.contains_iff_mem] at ended
  exact notEnded ended

theorem not_leavesNothing_of_active {before after : Session} (inactive : before.isActive = false)
    (active : after.isActive = true) : ¬ LeavesNothing before after := by
  intro nothing
  rw [nothing.unchanged] at active
  exact Bool.false_ne_true (inactive.symm.trans active)

theorem Halted.call_ne_createCollection {number : Nat} {commandId call : String}
    {calls : List CallRecord} {made : List Subscription}
    (halted : Halted number commandId call calls made) : call ≠ "create_collection" := by
  cases halted <;> decide

theorem Halted.leavesNoneLive_iff {before after : Session} (numbered : before.Numbered)
    {calls asked : List CallRecord} {collections : Nat} {call commandId : String}
    {made : List Subscription}
    (halted : Halted before.editor.subscriptions.length commandId call asked made)
    (underwent : before.editor.Underwent after.editor ⟨calls, collections, made, []⟩) :
    LeavesNoneLive before after ↔ call = "subscribe_open" := by
  cases halted with
  | opened =>
    refine iff_of_true (leavesNoneLive_of_same ?_) rfl
    rw [underwent.subscriptions, List.append_nil]
  | saved =>
    exact iff_of_false (not_leavesNoneLive numbered underwent List.mem_cons_self rfl) (by decide)
  | command =>
    exact iff_of_false (not_leavesNoneLive numbered underwent List.mem_cons_self rfl) (by decide)

/-- Whatever happened to a session before, an activation of it that fails leaves nothing behind
exactly if the session was active already or the collection was refused. If the first of the
subscriptions was refused, none was made, but the session is not what it was. -/
theorem activate_leavesNothing_iff (options : Options) (occurrences : List Occurrence)
    (endsMade : (fresh options).EndsMade occurrences) (fault : SessionFault) (after : Session)
    (failed : activate ((fresh options).course occurrences) = .error fault after) :
    (LeavesNothing ((fresh options).course occurrences) after ↔
      fault = .alreadyActive ∨ fault = .refused "create_collection") ∧
    (LeavesNoneLive ((fresh options).course occurrences) after ↔
      fault = .alreadyActive ∨ fault = .refused "create_collection" ∨
        fault = .refused "subscribe_open") := by
  have numbered := numbered_course (numbered_fresh options) endsMade
  have outcome := activated ((fresh options).course occurrences)
  generalize (fresh options).course occurrences = before at failed numbered outcome ⊢
  rw [failed] at outcome
  cases outcome with
  | already active =>
    have noneLive : LeavesNoneLive after after := leavesNoneLive_of_same rfl
    refine ⟨iff_of_true ⟨rfl, noneLive, fun inactive => ?_⟩ (Or.inl rfl),
      iff_of_true noneLive (Or.inl rfl)⟩
    exact absurd (inactive.symm.trans active) Bool.false_ne_true
  | refused inactive editor underwent =>
    have noneLive : LeavesNoneLive before { before with editor := editor } := by
      refine leavesNoneLive_of_same ?_
      show editor.subscriptions = before.editor.subscriptions
      rw [underwent.subscriptions, List.append_nil]
    refine ⟨iff_of_true ⟨rfl, noneLive, fun _ => ?_⟩ (Or.inr rfl),
      iff_of_true noneLive (Or.inr (Or.inl rfl))⟩
    exact exists_activate_unhindered _ inactive
  | halted inactive collection call calls made halted editor underwent =>
    have other := halted.call_ne_createCollection
    constructor
    · refine iff_of_false (not_leavesNothing_of_active inactive rfl) ?_
      simp [other]
    · rw [halted.leavesNoneLive_iff numbered underwent]
      simp [other]

/-- A plan that refuses to hand out collections. -/
def refuseCollections : Nat → Call → Bool
  | _, .createCollection _ => true
  | _, _ => false

/-- A plan that refuses subscriptions to saving. -/
def refuseSaved : Nat → Call → Bool
  | _, .subscribeSaved => true
  | _, _ => false

theorem activate_of_refuseCollections {session : Session} (inactive : session.isActive = false)
    (planned : session.editor.refuses = refuseCollections) :
    ∃ after, activate session = .error (.refused "create_collection") after := by
  have refused : session.editor.refuses session.editor.calls.length
      (.createCollection session.options.collectionName) = true := by
    rw [planned]
    rfl
  have stopped : Editor.createCollection session.options.collectionName session.editor =
      .error (.refused "create_collection") (session.editor.recorded _ false) :=
    bind_of_error (Editor.perform_of_refused refused)
  exact ⟨_, (activate_of_inactive inactive).trans (bind_of_error (onEditor_of_error stopped))⟩

/-- A session was active once, a subscription from then was ended again by its holder, and now the
editor refuses to hand out collections. -/
def refusedCollections : List Occurrence :=
  [.asked .activate, .asked .deactivate,
    .ended ⟨0, .opened, "codeigniter-3-intelligence.analyzeCurrentFile"⟩,
    .asked (.refuse refuseCollections)]

theorem activate_leavesNothing_refuseCollections :
    (fresh .defaults).EndsMade refusedCollections ∧
    ∃ after, activate ((fresh .defaults).course refusedCollections) =
        .error (.refused "create_collection") after ∧
      LeavesNothing ((fresh .defaults).course refusedCollections) after := by
  have endsMade : (fresh .defaults).EndsMade refusedCollections := ⟨by decide +kernel, trivial⟩
  have inactive : ((fresh .defaults).course refusedCollections).isActive = false := by
    decide +kernel
  obtain ⟨after, failed⟩ := activate_of_refuseCollections inactive rfl
  have exactly := (activate_leavesNothing_iff .defaults _ endsMade _ after failed).1
  exact ⟨endsMade, after, failed, exactly.mpr (Or.inr rfl)⟩

-- The session is active now, and its subscription to opening stands but is not on its record.
theorem not_leavesNothing_refuseSaved :
    ∃ after, activate ((fresh .defaults).course [.asked (.refuse refuseSaved)]) =
        .error (.refused "subscribe_save") after ∧
      after.subscriptions = [] ∧ (after.editor.live .opened).length = 1 ∧
      ¬ LeavesNothing ((fresh .defaults).course [.asked (.refuse refuseSaved)]) after :=
  ⟨_, rfl, rfl, rfl, not_leavesNothing_of_active rfl rfl⟩

end Session

end IgniterLint
