/-
This file shows that a collection is left alone once it has been cleared. A ledger publishes in the
collection that was handed out last, because a session opens a ledger only when it has none. The
ledger is closed as soon as a clearing has returned, and a closed ledger makes no more calls on its
publisher; a clearing that was refused leaves the ledger open, and then more may be published. What
ties the two together is that the publisher of an open ledger has not been cleared.
-/

import IgniterLint.Proofs.Collections
import IgniterLint.Proofs.Session.Outcome

namespace IgniterLint

open Collection (Orderly InOrder created latest?)

namespace Desk

/-- The record of calls is orderly, and the ledger publishes in the latest collection. If the ledger
is open, the collection has not been cleared. -/
structure Accounted (desk : Desk) : Prop where
  orderly : Orderly desk.editor.calls
  counted : (created desk.editor.calls).length = desk.editor.collections
  publisher : ∀ ledger, desk.ledger = some ledger → ∃ collection,
    ledger.publisher = some collection ∧ latest? desk.editor.calls = some collection ∧
      (ledger.disposed = false → ⟨.clear collection, true⟩ ∉ desk.editor.calls)

/-- Calls that concern no collection do not matter, nor does it matter if the ledger is dropped. -/
theorem Accounted.of_aside {desk later : Desk} (accounted : desk.Accounted)
    {effect : Editor.Effect} (underwent : desk.editor.Underwent later.editor effect)
    (noneCreated : effect.collections = 0) (aside : ∀ record ∈ effect.calls, record.Aside)
    (kept : ∀ ledger, later.ledger = some ledger → desk.ledger = some ledger) :
    later.Accounted := by
  have sameCreated : created later.editor.calls = created desk.editor.calls := by
    rw [underwent.calls]
    exact Collection.created_append_of_none _ _ fun record member => (aside record member).created?
  constructor
  · rw [underwent.calls]
    exact accounted.orderly.append_aside aside
  · rw [sameCreated, accounted.counted, underwent.collections, noneCreated, Nat.add_zero]
  · intro ledger onDesk
    obtain ⟨collection, isPublisher, isLatest, uncleared⟩ :=
      accounted.publisher ledger (kept ledger onDesk)
    refine ⟨collection, isPublisher, ?_, fun isOpen => ?_⟩
    · rw [latest?, sameCreated]
      exact isLatest
    · rw [underwent.calls, List.mem_append, not_or]
      exact ⟨uncleared isOpen, Collection.not_mem_clear_of_aside aside collection⟩

/-- An open ledger may make a call on its publisher, and it has to be closed if that clears it. -/
theorem Accounted.of_told {ledger left : Ledger} {before after : Editor} {call : Collection → Call}
    {returned : Bool} (accounted : Accounted ⟨some ledger, before⟩)
    (isOpen : ledger.disposed = false) (told : Told ledger call before after returned)
    (addressed : ∀ collection, (call collection).addressee? = some collection)
    (samePublisher : left.publisher = ledger.publisher)
    (closed : left.disposed = false → ∀ collection,
      (⟨.clear collection, true⟩ : CallRecord) ≠ ⟨call collection, returned⟩) :
    Accounted ⟨some left, after⟩ := by
  obtain ⟨collection, isPublisher, isLatest, uncleared⟩ := accounted.publisher ledger rfl
  have calls : after.calls = before.calls ++ [⟨call collection, returned⟩] := by
    rw [told.underwent.calls, isPublisher]
    rfl
  have sameCreated : created after.calls = created before.calls := by
    rw [calls]
    refine Collection.created_append_of_none _ _ fun record member => ?_
    rw [List.mem_singleton.mp member]
    exact CallRecord.created?_of_addressee? (addressed collection)
  constructor
  · show Orderly after.calls
    rw [calls]
    refine accounted.orderly.append_singleton fun other isAddressed => ?_
    obtain rfl : collection = other :=
      Option.some.inj ((addressed collection).symm.trans isAddressed)
    exact ⟨isLatest, uncleared isOpen⟩
  · show (created after.calls).length = after.collections
    rw [sameCreated, told.underwent.collections]
    exact accounted.counted
  · intro other isLeft
    obtain rfl : left = other := Option.some.inj isLeft
    refine ⟨collection, samePublisher.trans isPublisher, ?_, fun stillOpen => ?_⟩
    · show latest? after.calls = _
      rw [latest?, sameCreated]
      exact isLatest
    · show _ ∉ after.calls
      rw [calls, List.mem_append, not_or, List.mem_singleton]
      exact ⟨uncleared isOpen, closed stillOpen collection⟩

theorem Accounted.of_answered {ledger : Ledger} {editor : Editor} {request : Request}
    {returned : Bool} {desk : Desk} (accounted : Accounted ⟨some ledger, editor⟩)
    (answered : Answered ledger editor request returned desk) : desk.Accounted := by
  cases answered with
  | idle => exact accounted
  | replaced identity diagnostics isOpen _ after told =>
    exact accounted.of_told isOpen told (fun _ => rfl) rfl fun _ _ => by simp
  | deleted identity isOpen present _ after told =>
    exact accounted.of_told isOpen told (fun _ => rfl) rfl fun _ _ => by simp
  | disposed isOpen _ after told =>
    refine accounted.of_told isOpen told (fun _ => rfl) rfl fun stillOpen collection => ?_
    obtain rfl : returned = false := stillOpen
    simp

theorem accounted_answer (request : Request) : Leads (Keeps Accounted) (answer request) :=
  leads_answer request (fun _ => id) fun _ _ _ _ answered accounted =>
    accounted.of_answered answered

/-- A ledger that is opened publishes in a new collection, which nobody has cleared. -/
theorem Accounted.of_created {desk later : Desk} (accounted : desk.Accounted) {name : String}
    {calls : List CallRecord} {made : List Subscription} {ledger : Ledger}
    (underwent : desk.editor.Underwent later.editor
      ⟨⟨.createCollection name, true⟩ :: calls, 1, made, []⟩)
    (aside : ∀ record ∈ calls, record.Aside) (onDesk : later.ledger = some ledger)
    (isPublisher : ledger.publisher = some ⟨desk.editor.collections, name⟩) :
    later.Accounted := by
  have split : later.editor.calls =
      desk.editor.calls ++ [⟨.createCollection name, true⟩] ++ calls := by
    rw [underwent.calls, List.append_assoc]
    rfl
  have nowCreated : created later.editor.calls =
      created desk.editor.calls ++ [⟨desk.editor.collections, name⟩] := by
    rw [split, Collection.created_append_of_none _ _ fun record member =>
      (aside record member).created?, Collection.created_append_createCollection, accounted.counted]
  constructor
  · rw [split]
    refine (accounted.orderly.append_singleton fun collection addressed => ?_).append_aside aside
    exact absurd addressed (Option.some_ne_none collection).symm
  · rw [nowCreated, List.length_append, accounted.counted, underwent.collections]
    rfl
  · intro other isOther
    obtain rfl : ledger = other := Option.some.inj (onDesk.symm.trans isOther)
    refine ⟨_, isPublisher, ?_, fun _ => ?_⟩
    · rw [latest?, nowCreated, List.getLast?_concat]
    · have unknown : ⟨.clear ⟨desk.editor.collections, name⟩, true⟩ ∉ desk.editor.calls := by
        intro member
        have known := accounted.orderly.number_lt member rfl
        rw [accounted.counted] at known
        exact Nat.lt_irrefl _ known
      rw [split, List.mem_append, List.mem_append, not_or, not_or]
      exact ⟨⟨unknown, by simp⟩, Collection.not_mem_clear_of_aside aside _⟩

end Desk

namespace Session

/-! ### Activation and deactivation -/

theorem aside_ofEnding (subscriptions : List Subscription) :
    ∀ record ∈ (Editor.Effect.ofEnding subscriptions).calls, record.Aside := by
  intro record member
  obtain ⟨subscription, _, rfl⟩ := List.mem_map.mp member
  exact ⟨rfl, rfl⟩

theorem aside_subscribing (commandId : String) :
    ∀ record ∈ subscribing commandId, record.Aside := by
  intro record member
  simp only [subscribing, List.mem_cons, List.not_mem_nil, or_false] at member
  rcases member with rfl | rfl | rfl <;> exact ⟨rfl, rfl⟩

theorem Halted.aside {number : Nat} {commandId call : String} {calls : List CallRecord}
    {made : List Subscription} (halted : Halted number commandId call calls made) :
    ∀ record ∈ calls, record.Aside := by
  intro record member
  cases halted with
  | opened =>
    rw [List.mem_singleton.mp member]
    exact ⟨rfl, rfl⟩
  | saved =>
    simp only [List.mem_cons, List.not_mem_nil, or_false] at member
    rcases member with rfl | rfl <;> exact ⟨rfl, rfl⟩
  | command =>
    simp only [List.mem_cons, List.not_mem_nil, or_false] at member
    rcases member with rfl | rfl | rfl <;> exact ⟨rfl, rfl⟩

theorem accounted_activate (session : Session) (accounted : session.toDesk.Accounted) :
    (stateAfter activate session).toDesk.Accounted := by
  have outcome := activated session
  unfold stateAfter
  generalize activate session = result at outcome ⊢
  cases outcome with
  | already => exact accounted
  | refused inactive editor underwent =>
    refine accounted.of_aside underwent rfl (fun record member => ?_) fun _ => id
    rw [List.mem_singleton.mp member]
    exact ⟨rfl, rfl⟩
  | halted inactive collection call calls made halted editor underwent isNew =>
    subst isNew
    exact accounted.of_created underwent halted.aside rfl rfl
  | complete inactive collection subscriptions isFrom editor underwent isNew =>
    subst isNew
    exact accounted.of_created underwent (aside_subscribing _) rfl rfl

theorem accounted_deactivate (session : Session) (accounted : session.toDesk.Accounted) :
    (stateAfter deactivate session).toDesk.Accounted := by
  have outcome := deactivated session
  unfold stateAfter
  generalize deactivate session = result at outcome ⊢
  cases outcome with
  | halted ended failing rest split editor underwent =>
    refine accounted.of_aside underwent rfl (List.forall_mem_append.mpr ⟨aside_ofEnding ended, ?_⟩)
      fun _ => id
    intro record member
    rw [List.mem_singleton.mp member]
    exact ⟨rfl, rfl⟩
  | bare inactive editor underwent =>
    exact accounted.of_aside underwent rfl (aside_ofEnding _)
      fun _ none => absurd none (Option.some_ne_none _).symm
  | refused ledger active editor underwent fault desk answered =>
    have ended : Desk.Accounted ⟨some ledger, editor⟩ :=
      accounted.of_aside underwent rfl (aside_ofEnding _) fun _ same => active.trans same
    exact ended.of_answered answered
  | complete ledger active editor underwent desk answered entry =>
    have ended : Desk.Accounted ⟨some ledger, editor⟩ :=
      accounted.of_aside underwent rfl (aside_ofEnding _) fun _ same => active.trans same
    refine (ended.of_answered answered).of_aside (desk.editor.underwent_note entry) rfl
      (fun record member => absurd member List.not_mem_nil) ?_
    exact fun _ none => absurd none (Option.some_ne_none _).symm

theorem accounted_work {before after : Session} (work : Work before after)
    (accounted : before.toDesk.Accounted) : after.toDesk.Accounted := by
  cases work with
  | idle editor calls quiet underwent =>
    refine accounted.of_aside underwent rfl (fun record member => ?_) fun _ => id
    obtain ⟨call, returned⟩ := record
    obtain rfl : call = .activeDocument := quiet _ member
    exact ⟨rfl, rfl⟩
  | ledger desk asked =>
    obtain ⟨request, rfl⟩ := asked
    exact Desk.accounted_answer request before.toDesk accounted

theorem accounted_ending (session : Session) (subscription : Subscription)
    (accounted : session.toDesk.Accounted) : (session.ending subscription).toDesk.Accounted := by
  rw [ending, stateAfter_onEditor]
  obtain ⟨returned, underwent⟩ := session.editor.underwent_dispose subscription
  refine accounted.of_aside underwent rfl (fun record member => ?_) fun _ => id
  rw [List.mem_singleton.mp member]
  exact ⟨rfl, rfl⟩

theorem accounted_fresh (options : Options) : (fresh options).toDesk.Accounted :=
  ⟨Collection.orderly_nil, rfl, fun _ none => absurd none (Option.some_ne_none _).symm⟩

theorem accounted_course (options : Options) (occurrences : List Occurrence) :
    ((fresh options).course occurrences).toDesk.Accounted := by
  refine course_induction (motive := fun session => session.toDesk.Accounted) _ _
    (accounted_fresh options) (fun _ _ => accounted_work) accounted_activate accounted_deactivate
    accounted_ending ?_
  exact fun before plan accounted => ⟨accounted.orderly, accounted.counted, accounted.publisher⟩

/-- Whatever happens to a session, and whatever calls are refused on the way, of every collection at
most one clearing returns, no call is made on it after that, and every call on it was made while it
was the latest collection. -/
theorem publish_before_teardown (options : Options) (occurrences : List Occurrence)
    (collection : Collection) :
    ((fresh options).course occurrences).editor.calls.count ⟨.clear collection, true⟩ ≤ 1 ∧
    (∀ earlier later, ((fresh options).course occurrences).editor.calls =
        earlier ++ ⟨.clear collection, true⟩ :: later →
      ∀ record ∈ later, record.call.addressee? ≠ some collection) ∧
    ∀ earlier record later, ((fresh options).course occurrences).editor.calls =
        earlier ++ record :: later →
      record.call.addressee? = some collection → latest? earlier = some collection := by
  have orderly := (accounted_course options occurrences).orderly
  refine ⟨orderly.count_clear_le collection, fun earlier later split => ?_,
    fun earlier record later split addressed => ?_⟩
  · rw [split] at orderly
    exact orderly.addressee?_ne_of_clear
  · exact (orderly earlier record later split collection addressed).1

end Session

end IgniterLint
