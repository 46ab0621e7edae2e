/-
This file shows that no subscription is lost sight of, as long as the editor refuses none. Whatever
else it refuses, every subscription that still stands is on the record of the session. The session
forgets its record only when all of it has ended, and it is given new subscriptions only when it has
none on record, so the old ones have ended by then. A record never holds two subscriptions to one
trigger, so the editor never calls back twice for one event, and it does not call back at all while
the session is inactive.

A refused call to end a subscription may have ended it or not. So that nothing here hangs on this,
the same is shown of every subscription for which no such call has returned.
-/

import IgniterLint.Proofs.Session.Lifecycle
import Mathlib.Data.List.Nodup
import Mathlib.Data.List.Perm.Subperm

namespace IgniterLint

/-- Whether a call asks for a subscription. -/
def Call.subscribes : Call → Bool
  | .subscribeOpened => true
  | .subscribeSaved => true
  | .registerCommand _ => true
  | _ => false

namespace Editor

/-- Whether no call to end the subscription has returned. -/
def isUnended (editor : Editor) (subscription : Subscription) : Bool :=
  !editor.calls.contains ⟨.dispose subscription, true⟩

/-- The subscriptions to a trigger that no call has returned from ending, the earliest first. -/
def unended (editor : Editor) (trigger : Trigger) : List Subscription :=
  editor.subscriptions.filter fun subscription =>
    subscription.trigger == trigger && editor.isUnended subscription

/-- The subscription is not marked as ended, or no call to end it has returned. -/
def MayStand (editor : Editor) (subscription : Subscription) : Prop :=
  subscription.number ∉ editor.disposed ∨ ⟨.dispose subscription, true⟩ ∉ editor.calls

theorem mayStand_of_isLive {editor : Editor} {subscription : Subscription}
    (live : editor.isLive subscription = true) : editor.MayStand subscription := by
  rw [isLive, Bool.not_eq_true', List.contains_eq_mem, decide_eq_false_iff_not] at live
  exact Or.inl live

theorem mayStand_of_isUnended {editor : Editor} {subscription : Subscription}
    (unended : editor.isUnended subscription = true) : editor.MayStand subscription := by
  rw [isUnended, Bool.not_eq_true', List.contains_eq_mem, decide_eq_false_iff_not] at unended
  exact Or.inr unended

/-- What may stand after calls may have stood before them, and the calls did not both mark it as
ended and return from ending it. -/
theorem Underwent.mayStand {before after : Editor} {effect : Effect}
    (underwent : before.Underwent after effect) {subscription : Subscription}
    (mayStand : after.MayStand subscription) :
    before.MayStand subscription ∧
      (subscription.number ∉ effect.ended ∨ ⟨.dispose subscription, true⟩ ∉ effect.calls) := by
  rw [MayStand, underwent.disposed, underwent.calls, List.mem_append, List.mem_append, not_or,
    not_or] at mayStand
  rcases mayStand with ⟨notEnded, wasNotEnded⟩ | ⟨hadNotReturned, notReturned⟩
  · exact ⟨Or.inl wasNotEnded, Or.inl notEnded⟩
  · exact ⟨Or.inr hadNotReturned, Or.inr notReturned⟩

end Editor

namespace Session

/-- Subscriptions are numbered one by one, and those that may still stand are on the session's
record. -/
structure Tracked (session : Session) : Prop where
  serial : session.editor.subscriptions.map (·.number) =
    List.range session.editor.subscriptions.length
  recorded : ∀ subscription ∈ session.editor.subscriptions,
    session.editor.MayStand subscription → subscription ∈ session.subscriptions

/-- Every call for a subscription returned. -/
def Granted (calls : List CallRecord) : Prop :=
  ∀ record ∈ calls, record.call.subscribes = true → record.returned = true

theorem Granted.before {before after : Editor} {effect : Editor.Effect}
    (granted : Granted after.calls) (underwent : before.Underwent after effect) :
    Granted before.calls ∧ Granted effect.calls := by
  rw [Granted, underwent.calls, List.forall_mem_append] at granted
  exact granted

/-! ### Steps that make no subscription -/

/-- No subscription is lost sight of when none is made and the record keeps all that may stand. -/
theorem Tracked.of_underwent {before after : Session} (tracked : before.Tracked)
    {effect : Editor.Effect} (underwent : before.editor.Underwent after.editor effect)
    (noneMade : effect.made = [])
    (kept : ∀ subscription ∈ before.subscriptions,
      subscription.number ∉ effect.ended ∨ ⟨.dispose subscription, true⟩ ∉ effect.calls →
        subscription ∈ after.subscriptions) : after.Tracked := by
  have same : after.editor.subscriptions = before.editor.subscriptions := by
    rw [underwent.subscriptions, noneMade, List.append_nil]
  constructor
  · rw [same]
    exact tracked.serial
  · intro subscription made mayStand
    rw [same] at made
    obtain ⟨mightStand, remains⟩ := underwent.mayStand mayStand
    exact kept subscription (tracked.recorded subscription made mightStand) remains

/-- The session may forget its record when all of it has ended and no call for that was refused. -/
theorem Tracked.forget {session : Session} (tracked : session.Tracked) {editor : Editor}
    (underwent : session.editor.Underwent editor (.ofEnding session.subscriptions)) :
    Tracked { session with editor := editor, subscriptions := [] } := by
  refine tracked.of_underwent underwent rfl fun subscription recorded remains => ?_
  rcases remains with notEnded | notReturned
  · exact absurd (List.mem_reverse.mpr (List.mem_map_of_mem recorded)) notEnded
  · exact absurd (List.mem_map_of_mem recorded) notReturned

/-- The session is tracked, provided that every call for a subscription returned so far. -/
def TrackedIfGranted (session : Session) : Prop := Granted session.editor.calls → session.Tracked

theorem TrackedIfGranted.of_underwent {before after : Session} (tracked : before.TrackedIfGranted)
    {effect : Editor.Effect} (underwent : before.editor.Underwent after.editor effect)
    (noneMade : effect.made = []) (same : after.subscriptions = before.subscriptions) :
    after.TrackedIfGranted := by
  intro granted
  refine (tracked (granted.before underwent).1).of_underwent underwent noneMade ?_
  exact fun subscription recorded _ => same ▸ recorded

theorem tracked_work {before after : Session} (work : Work before after)
    (tracked : before.TrackedIfGranted) : after.TrackedIfGranted := by
  cases work with
  | idle editor calls _ underwent => exact tracked.of_underwent underwent rfl rfl
  | ledger desk asked =>
    obtain ⟨request, rfl⟩ := asked
    obtain ⟨calls, underwent⟩ := before.toDesk.underwent_answer request
    exact tracked.of_underwent underwent rfl rfl

theorem tracked_ending (session : Session) (subscription : Subscription)
    (tracked : session.TrackedIfGranted) : (session.ending subscription).TrackedIfGranted := by
  rw [ending, stateAfter_onEditor]
  obtain ⟨returned, underwent⟩ := session.editor.underwent_dispose subscription
  exact tracked.of_underwent underwent rfl rfl

theorem tracked_refusing (session : Session) (plan : Nat → Call → Bool)
    (tracked : session.TrackedIfGranted) : (session.refusing plan).TrackedIfGranted :=
  fun granted => ⟨(tracked granted).serial, (tracked granted).recorded⟩

theorem tracked_deactivate {session : Session} (tracked : session.TrackedIfGranted) :
    (stateAfter deactivate session).TrackedIfGranted := by
  have outcome := deactivated session
  unfold stateAfter
  generalize deactivate session = result at outcome ⊢
  cases outcome with
  | halted ended failing rest split editor underwent =>
    exact tracked.of_underwent underwent rfl rfl
  | bare inactive editor underwent =>
    intro granted
    have forgotten := (tracked (granted.before underwent).1).forget underwent
    exact ⟨forgotten.serial, forgotten.recorded⟩
  | refused ledger active editor underwent fault desk answered =>
    obtain ⟨calls, told⟩ := answered.underwent
    intro granted
    have grantedBefore := (granted.before told).1
    have forgotten := (tracked (grantedBefore.before underwent).1).forget underwent
    exact forgotten.of_underwent told rfl fun _ recorded _ => recorded
  | complete ledger active editor underwent desk answered entry =>
    obtain ⟨calls, told⟩ := answered.underwent
    intro granted
    have grantedBefore := (granted.before (told.note entry)).1
    have forgotten := (tracked (grantedBefore.before underwent).1).forget underwent
    exact forgotten.of_underwent (told.note entry) rfl fun _ recorded _ => recorded

/-! ### Activation -/

theorem Halted.not_granted {number : Nat} {commandId call : String} {calls : List CallRecord}
    {made : List Subscription} (halted : Halted number commandId call calls made) :
    ¬ Granted calls := by
  intro granted
  cases halted with
  | opened => exact absurd (granted ⟨.subscribeOpened, false⟩ (by simp) rfl) (by simp)
  | saved => exact absurd (granted ⟨.subscribeSaved, false⟩ (by simp) rfl) (by simp)
  | command =>
    exact absurd (granted ⟨.registerCommand commandId, false⟩ (by simp) rfl) (by simp)

/-- What a session is given takes the place of a record of which nothing stands. -/
theorem Tracked.of_given {before after : Session} (tracked : before.Tracked)
    (nothing : before.subscriptions = []) {calls : List CallRecord} {collections : Nat}
    {commandId : String}
    (given : after.subscriptions =
      subscriptionsFrom before.editor.subscriptions.length commandId)
    (underwent : before.editor.Underwent after.editor
      ⟨calls, collections, after.subscriptions, []⟩) : after.Tracked := by
  constructor
  · rw [underwent.subscriptions, List.map_append, tracked.serial, List.length_append, given]
    simp [subscriptionsFrom, List.range_succ]
  · intro subscription made mayStand
    rw [underwent.subscriptions] at made
    rcases List.mem_append.mp made with earlier | new
    · have recorded := tracked.recorded subscription earlier (underwent.mayStand mayStand).1
      rw [nothing] at recorded
      exact absurd recorded List.not_mem_nil
    · exact new

theorem tracked_activate {session : Session} (down : session.isActive = false → session.Down)
    (tracked : session.TrackedIfGranted) : (stateAfter activate session).TrackedIfGranted := by
  have outcome := activated session
  unfold stateAfter
  generalize activate session = result at outcome ⊢
  cases outcome with
  | already => exact tracked
  | refused inactive editor underwent => exact tracked.of_underwent underwent rfl rfl
  | halted inactive collection call calls made halted editor underwent =>
    intro granted
    have asked := (granted.before underwent).2
    exact absurd (List.forall_mem_cons.mp asked).2 halted.not_granted
  | complete inactive collection subscriptions isFrom editor underwent =>
    intro granted
    exact (tracked (granted.before underwent).1).of_given (down inactive).subscriptions isFrom
      underwent

/-! ### Whole courses -/

theorem tracked_course (options : Options) (occurrences : List Occurrence) :
    ((fresh options).course occurrences).TrackedIfGranted := by
  induction occurrences using List.reverseRecOn with
  | nil => exact fun _ => ⟨rfl, fun _ made => absurd made List.not_mem_nil⟩
  | append_singleton occurrences occurrence inductionHypothesis =>
    rw [course_append_singleton]
    by_cases isActivate : occurrence = .asked .activate
    · rw [isActivate, next_activate]
      exact tracked_activate (standing_course options occurrences).down_of_inactive
        inductionHypothesis
    · exact related_next (R := Keeps TrackedIfGranted) (fun _ _ => tracked_work) tracked_ending
        tracked_refusing occurrence (fun same => absurd same isActivate)
        (fun _ _ => tracked_deactivate) _ inductionHypothesis

theorem Tracked.nodup {session : Session} (tracked : session.Tracked) :
    session.editor.subscriptions.Nodup := by
  have distinct : (session.editor.subscriptions.map (·.number)).Nodup := by
    rw [tracked.serial]
    exact List.nodup_range
  exact List.Nodup.of_map _ distinct

/-- Of a kind of subscriptions that may all still stand, no more are to a trigger than the session
has on record for it. -/
theorem Tracked.length_filter_le {session : Session} (tracked : session.Tracked)
    {kind : Subscription → Bool}
    (mayStand : ∀ subscription, kind subscription = true → session.editor.MayStand subscription)
    (trigger : Trigger) :
    (session.editor.subscriptions.filter fun subscription =>
        subscription.trigger == trigger && kind subscription).length ≤
      (session.subscriptions.map (·.trigger)).count trigger := by
  have onRecord : (session.editor.subscriptions.filter fun subscription =>
        subscription.trigger == trigger && kind subscription) ⊆
      session.subscriptions.filter fun subscription => subscription.trigger == trigger := by
    intro subscription member
    obtain ⟨made, isOne⟩ := List.mem_filter.mp member
    obtain ⟨called, isKind⟩ := Bool.and_eq_true_iff.mp isOne
    exact List.mem_filter.mpr
      ⟨tracked.recorded subscription made (mayStand subscription isKind), called⟩
  have fewer := (List.subperm_of_subset (tracked.nodup.filter _) onRecord).length_le
  rwa [List.count, List.countP_map, List.countP_eq_length_filter]

theorem Standing.count_trigger_le {options : Options} {occurrences : List Occurrence}
    (standing : Standing options occurrences) (trigger : Trigger) :
    (((fresh options).course occurrences).subscriptions.map (·.trigger)).count trigger ≤ 1 := by
  cases standing with
  | down down =>
    rw [down.subscriptions]
    exact Nat.zero_le 1
  | up ledger engine up earlier later split since records =>
    rcases records with nothing | ⟨_, _, _, triggers⟩
    · rw [nothing]
      exact Nat.zero_le 1
    · rw [triggers]
      cases trigger <;> decide

/-- Of subscriptions that may all still stand, at most one is to a trigger, and none is while the
session is inactive. -/
theorem Tracked.atMostOne {options : Options} {occurrences : List Occurrence}
    (tracked : ((fresh options).course occurrences).Tracked) {kind : Subscription → Bool}
    (mayStand : ∀ subscription, kind subscription = true →
      ((fresh options).course occurrences).editor.MayStand subscription) (trigger : Trigger) :
    (((fresh options).course occurrences).editor.subscriptions.filter fun subscription =>
        subscription.trigger == trigger && kind subscription).length ≤ 1 ∧
    (((fresh options).course occurrences).isActive = false →
      (((fresh options).course occurrences).editor.subscriptions.filter fun subscription =>
        subscription.trigger == trigger && kind subscription) = []) := by
  have standing := standing_course options occurrences
  have fewer := tracked.length_filter_le mayStand trigger
  refine ⟨fewer.trans (standing.count_trigger_le trigger), fun inactive => ?_⟩
  rw [(standing.down_of_inactive inactive).subscriptions] at fewer
  exact List.eq_nil_of_length_eq_zero (Nat.le_zero.mp fewer)

/-- In every course in which no call for a subscription was refused, whatever else was, each
subscription that stands is on the session's record. So at most one stands for each trigger, and
none while the session is inactive. All of this also holds of the subscriptions for which no call to
end them has returned. -/
theorem live_recorded (options : Options) (occurrences : List Occurrence)
    (granted : ∀ record ∈ ((fresh options).course occurrences).editor.calls,
      record.call.subscribes = true → record.returned = true) :
    (∀ subscription ∈ ((fresh options).course occurrences).editor.subscriptions,
      ((fresh options).course occurrences).editor.isLive subscription = true →
        subscription ∈ ((fresh options).course occurrences).subscriptions) ∧
    (∀ trigger, (((fresh options).course occurrences).editor.live trigger).length ≤ 1) ∧
    (((fresh options).course occurrences).isActive = false →
      ∀ trigger, ((fresh options).course occurrences).editor.live trigger = []) ∧
    (∀ subscription ∈ ((fresh options).course occurrences).editor.subscriptions,
      ((fresh options).course occurrences).editor.isUnended subscription = true →
        subscription ∈ ((fresh options).course occurrences).subscriptions) ∧
    (∀ trigger, (((fresh options).course occurrences).editor.unended trigger).length ≤ 1) ∧
    (((fresh options).course occurrences).isActive = false →
      ∀ trigger, ((fresh options).course occurrences).editor.unended trigger = []) := by
  have tracked := tracked_course options occurrences granted
  have live := tracked.atMostOne fun _ => Editor.mayStand_of_isLive
  have unended := tracked.atMostOne fun _ => Editor.mayStand_of_isUnended
  refine ⟨?_, fun trigger => (live trigger).1, fun inactive trigger => (live trigger).2 inactive,
    ?_, fun trigger => (unended trigger).1, fun inactive trigger => (unended trigger).2 inactive⟩
  · intro subscription made isLive
    exact tracked.recorded subscription made (Editor.mayStand_of_isLive isLive)
  · intro subscription made isUnended
    exact tracked.recorded subscription made (Editor.mayStand_of_isUnended isUnended)

/-- A plan that refuses to end subscriptions to saving. -/
def refuseEndOfSaved : Nat → Call → Bool
  | _, .dispose subscription => subscription.trigger == .saved
  | _, _ => false

/-- A session is deactivated, which is refused half way, then again, and then activated anew; and
the holder of a subscription from the first activation ends it once more. -/
def reactivation : List Occurrence :=
  [.asked .activate, .asked (.refuse refuseEndOfSaved), .asked .deactivate,
    .asked (.refuse fun _ _ => false), .asked .deactivate, .asked .activate,
    .ended ⟨0, .opened, "codeigniter-3-intelligence.analyzeCurrentFile"⟩]

theorem live_recorded_reactivation :
    ((fresh .defaults).course reactivation).editor.subscriptions.length = 6 ∧
    (∀ trigger, (((fresh .defaults).course reactivation).editor.live trigger).length ≤ 1) ∧
    ∀ trigger, (((fresh .defaults).course reactivation).editor.unended trigger).length ≤ 1 := by
  have granted : ∀ record ∈ ((fresh .defaults).course reactivation).editor.calls,
      record.call.subscribes = true → record.returned = true := by decide +kernel
  obtain ⟨_, live, _, _, unended, _⟩ := live_recorded .defaults reactivation granted
  exact ⟨by decide +kernel, live, unended⟩

end Session

end IgniterLint
