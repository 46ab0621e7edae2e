/-
This file compares a ledger with what its publisher shows. The publisher shows what it was last
told, by calls that returned. Each request that changes something under an identity tells the
publisher, so the two agree once such a request has returned. What breaks the agreement is a change
that was made and not published: a deletion, or a disposal, whose call was refused. Deleting again
finds nothing to delete and returns, and the publisher still shows what is no longer filed.
-/

import IgniterLint.Proofs.Ledger.Answer
import Mathlib.Logic.Function.Basic

namespace IgniterLint

/-! ### What a collection shows -/

namespace Collection

/-- What a collection shows after a call, by identity. A call that was refused does nothing. -/
def showAfter (collection : Collection) (shown : Text → List Diagnostic) (record : CallRecord) :
    Text → List Diagnostic :=
  if record.returned then
    match record.call with
    | .publish told identity diagnostics =>
      if told = collection then Function.update shown identity diagnostics else shown
    | .clear told => if told = collection then fun _ => [] else shown
    | _ => shown
  else shown

/-- What a collection shows after calls, by identity. -/
def shown (collection : Collection) (calls : List CallRecord) : Text → List Diagnostic :=
  calls.foldl collection.showAfter fun _ => []

theorem shown_append_singleton (collection : Collection) (calls : List CallRecord)
    (record : CallRecord) :
    collection.shown (calls ++ [record]) =
      collection.showAfter (collection.shown calls) record := by
  rw [shown, shown, List.foldl_append]
  rfl

theorem showAfter_refused (collection : Collection) (shown : Text → List Diagnostic) (call : Call) :
    collection.showAfter shown ⟨call, false⟩ = shown := rfl

theorem showAfter_publish (collection : Collection) (shown : Text → List Diagnostic)
    (identity : Text) (diagnostics : List Diagnostic) :
    collection.showAfter shown ⟨.publish collection identity diagnostics, true⟩ =
      Function.update shown identity diagnostics := by
  unfold showAfter
  rw [if_pos rfl]
  exact if_pos rfl

theorem showAfter_clear (collection : Collection) (shown : Text → List Diagnostic) :
    collection.showAfter shown ⟨.clear collection, true⟩ = fun _ => [] := by
  unfold showAfter
  rw [if_pos rfl]
  exact if_pos rfl

end Collection

/-! ### What is filed -/

namespace Ledger

theorem get_of_entries_nil {ledger : Ledger} (empty : ledger.entries = []) (identity : Text) :
    ledger.get identity = [] := by
  rw [get, empty]
  rfl

theorem get_of_not_contains {ledger : Ledger} {identity : Text}
    (absent : ledger.contains identity = false) : ledger.get identity = [] := by
  have unfiled : ledger.entries.lookup identity = none := by
    rw [List.lookup_eq_none_iff]
    intro entry member
    rw [bne_iff_ne]
    rintro rfl
    rw [contains, identities, List.contains_eq_mem, decide_eq_false_iff_not] at absent
    exact absent (List.mem_map_of_mem member)
  rw [get, unfiled, Option.getD_none]

theorem not_contains_erase_self (ledger : Ledger) (identity : Text) :
    (ledger.erase identity).contains identity = false := by
  rw [contains, identities, List.contains_eq_mem, decide_eq_false_iff_not]
  intro member
  obtain ⟨entry, kept, same⟩ := List.mem_map.mp member
  exact of_decide_eq_true (List.mem_filter.mp kept).2 same

theorem get_erase_of_ne (ledger : Ledger) (identity wanted : Text) (other : wanted ≠ identity) :
    (ledger.erase identity).get wanted = ledger.get wanted := by
  rw [get, get, erase]
  dsimp only
  induction ledger.entries with
  | nil => rfl
  | cons entry rest inductionHypothesis =>
    obtain ⟨filed, found⟩ := entry
    by_cases same : filed = identity
    · have skipped : wanted ≠ filed := same ▸ other
      rw [List.filter_cons_of_neg (by simp [same]), inductionHypothesis, List.lookup_cons,
        beq_false_of_ne skipped]
    · rw [List.filter_cons_of_pos (by simp [same]), List.lookup_cons, List.lookup_cons]
      split
      · rfl
      · exact inductionHypothesis

end Ledger

namespace Desk

section

variable {ledger : Ledger} {collection : Collection} {before after : Editor} {returned : Bool}

theorem Told.shown_eq {call : Collection → Call} (told : Told ledger call before after returned)
    (isPublisher : ledger.publisher = some collection) :
    collection.shown after.calls =
      collection.showAfter (collection.shown before.calls) ⟨call collection, returned⟩ := by
  rw [told.underwent.calls, isPublisher, ← collection.shown_append_singleton]
  rfl

theorem Told.shown_publish_of_ne {identity wanted : Text} {diagnostics : List Diagnostic}
    (told : Told ledger (.publish · identity diagnostics) before after returned)
    (isPublisher : ledger.publisher = some collection) (other : wanted ≠ identity) :
    collection.shown after.calls wanted = collection.shown before.calls wanted := by
  rw [told.shown_eq isPublisher]
  cases returned with
  | true => rw [Collection.showAfter_publish, Function.update_of_ne other]
  | false => rw [Collection.showAfter_refused]

theorem Told.shown_publish_self {identity : Text} {diagnostics : List Diagnostic}
    (told : Told ledger (.publish · identity diagnostics) before after true)
    (isPublisher : ledger.publisher = some collection) :
    collection.shown after.calls identity = diagnostics := by
  rw [told.shown_eq isPublisher, Collection.showAfter_publish, Function.update_self]

theorem Told.shown_clear (told : Told ledger .clear before after true)
    (isPublisher : ledger.publisher = some collection) (identity : Text) :
    collection.shown after.calls identity = [] := by
  rw [told.shown_eq isPublisher, Collection.showAfter_clear]

end

/-! ### The log of a ledger -/

/-- Whether a request is about what is filed under the identity. -/
def Request.concerns (identity : Text) : Request → Bool
  | .replace filed _ => filed == identity
  | .delete filed => filed == identity
  | .dispose => true
  | _ => false

/-- Whether a request finds something to change in the ledger. -/
def Request.acts (ledger : Ledger) : Request → Bool
  | .replace _ _ => !ledger.disposed
  | .delete identity => !ledger.disposed && ledger.contains identity
  | .dispose => !ledger.disposed
  | _ => false

theorem Idle.acts_eq_false {ledger : Ledger} {request : Request} {returned : Bool}
    (idle : Idle ledger request returned) : request.acts ledger = false := by
  cases idle with
  | get | contains | identities => rfl
  | absent identity isOpen absent => rw [Request.acts, absent, Bool.and_false]
  | replaceClosed _ _ closed => rw [Request.acts, closed]; rfl
  | deleteClosed _ closed => rw [Request.acts, closed]; rfl
  | disposeClosed closed => rw [Request.acts, closed]; rfl

/-- A request that concerns the identity, changes nothing and returns, found nothing filed. -/
theorem Idle.get_eq_nil {ledger : Ledger} {request : Request} {identity : Text}
    (idle : Idle ledger request true) (concerned : request.concerns identity = true)
    (closed : ledger.disposed = true → ledger.entries = []) : ledger.get identity = [] := by
  cases idle with
  | get | contains | identities => exact absurd concerned Bool.false_ne_true
  | absent filed _ absent =>
    obtain rfl : filed = identity := eq_of_beq concerned
    exact Ledger.get_of_not_contains absent
  | disposeClosed isClosed => exact Ledger.get_of_entries_nil (closed isClosed) identity

/-- What became of a request: whether it returned, and whether it found something to change. -/
structure Event where
  request : Request
  returned : Bool
  acted : Bool
deriving DecidableEq, Repr

/-- A desk with what happened at it, the latest first. -/
structure Log where
  desk : Desk
  events : List Event

namespace Log

/-- A new ledger that publishes in the collection, at an editor with this plan of refusals. -/
def start (name : String) (collection : Collection) (plan : Nat → Call → Bool) : Log where
  desk := ⟨some (Ledger.fresh name (some collection)), { Editor.fresh with refuses := plan }⟩
  events := []

/-- What becomes of a request. -/
def event (log : Log) (request : Request) : Event where
  request := request
  returned := returns (answer request) log.desk
  acted := log.desk.ledger.any request.acts

/-- The log with one more request. -/
def next (log : Log) (request : Request) : Log where
  desk := stateAfter (answer request) log.desk
  events := log.event request :: log.events

/-- The log with more requests, one after the other. -/
def run (log : Log) (requests : List Request) : Log := requests.foldl next log

/-- The latest event that concerns the identity. -/
def last? (log : Log) (identity : Text) : Option Event :=
  log.events.find? fun event => event.request.concerns identity

/-- The latest event that concerns the identity and found something to change. -/
def lastActing? (log : Log) (identity : Text) : Option Event :=
  log.events.find? fun event => event.request.concerns identity && event.acted

theorem last?_next (log : Log) (request : Request) (identity : Text) :
    (log.next request).last? identity =
      if request.concerns identity then some (log.event request) else log.last? identity := by
  rw [last?, next, List.find?_cons]
  show (match request.concerns identity with | true => _ | false => _) = _
  cases request.concerns identity <;> rfl

theorem lastActing?_next (log : Log) (request : Request) (identity : Text) :
    (log.next request).lastActing? identity =
      if request.concerns identity && (log.event request).acted then some (log.event request)
      else log.lastActing? identity := by
  rw [lastActing?, next, List.find?_cons]
  show (match request.concerns identity && _ with | true => _ | false => _) = _
  cases request.concerns identity && (log.event request).acted <;> rfl

/-- An event that acted and is the latest of all is the latest of those that acted. -/
theorem lastActing?_of_acted {log : Log} {identity : Text} {event : Event}
    (last : log.last? identity = some event) (acted : event.acted = true) :
    log.lastActing? identity = some event := by
  rw [last?, List.find?_eq_some_iff_append] at last
  obtain ⟨concerned, later, earlier, split, unconcerned⟩ := last
  rw [lastActing?, List.find?_eq_some_iff_append]
  refine ⟨by rw [concerned, acted]; rfl, later, earlier, split, fun other member => ?_⟩
  have skipped := unconcerned other member
  simp only [Bool.not_eq_true'] at skipped ⊢
  rw [skipped, Bool.false_and]

theorem lastActing?_of_none {log : Log} {identity : Text} (untouched : log.last? identity = none) :
    log.lastActing? identity = none := by
  rw [last?, List.find?_eq_none] at untouched
  rw [lastActing?, List.find?_eq_none]
  intro event member acting
  exact untouched event member (Bool.and_eq_true_iff.mp acting).1

/-- What a log knows of an identity. -/
structure Faithful (collection : Collection) (identity : Text) (log : Log) (ledger : Ledger) :
    Prop where
  onDesk : log.desk.ledger = some ledger
  publisher : ledger.publisher = some collection
  closed : ledger.disposed = true → ledger.entries = []
  agrees : (∀ event ∈ log.lastActing? identity, event.returned = true) →
    collection.shown log.desk.editor.calls identity = ledger.get identity
  unfiled : ∀ event ∈ log.last? identity, event.returned = true → event.acted = false →
    ledger.get identity = []

theorem faithful_start (name : String) (collection : Collection) (plan : Nat → Call → Bool)
    (identity : Text) :
    (start name collection plan).Faithful collection identity
      (Ledger.fresh name (some collection)) := by
  exact ⟨rfl, rfl, fun _ => rfl, fun _ => rfl, fun _ _ _ _ => rfl⟩

/-- A request that is not about the identity, or finds nothing to change, may leave things as they
are. A request that changes something under the identity has to tell the publisher. -/
theorem Faithful.of_next {collection : Collection} {identity : Text} {log : Log}
    {ledger later : Ledger} {request : Request} {returned : Bool} {editor : Editor}
    (faithful : log.Faithful collection identity ledger)
    (ended : returns (answer request) log.desk = returned)
    (left : stateAfter (answer request) log.desk = ⟨some later, editor⟩)
    (publisher : later.publisher = some collection)
    (closed : later.disposed = true → later.entries = [])
    (kept : (request.concerns identity && request.acts ledger) = false →
      collection.shown editor.calls identity = collection.shown log.desk.editor.calls identity ∧
        later.get identity = ledger.get identity)
    (told : (request.concerns identity && request.acts ledger) = true → returned = true →
      collection.shown editor.calls identity = later.get identity)
    (found : request.concerns identity = true → request.acts ledger = false → returned = true →
      later.get identity = []) :
    (log.next request).Faithful collection identity later := by
  have acted : (log.event request).acted = request.acts ledger := by
    rw [event, faithful.onDesk, Option.any_some]
  have desk : (log.next request).desk = ⟨some later, editor⟩ := left
  refine ⟨by rw [desk], publisher, closed, fun settled => ?_,
    fun event isLast isReturned idle => ?_⟩
  · rw [lastActing?_next, acted] at settled
    rw [desk]
    cases acting : request.concerns identity && request.acts ledger with
    | true =>
      -- The request is the latest to act, so only the case where it returned is left to show.
      rw [acting, if_pos rfl] at settled
      exact told acting (ended.symm.trans (settled _ rfl))
    | false =>
      rw [acting, if_neg Bool.false_ne_true] at settled
      rw [(kept acting).1, (kept acting).2]
      exact faithful.agrees settled
  · rw [last?_next] at isLast
    cases concerned : request.concerns identity with
    | true =>
      rw [concerned, if_pos rfl, Option.mem_some_iff] at isLast
      subst isLast
      exact found concerned (acted.symm.trans idle) (ended.symm.trans isReturned)
    | false =>
      rw [concerned, if_neg Bool.false_ne_true] at isLast
      rw [(kept (by rw [concerned, Bool.false_and])).2]
      exact faithful.unfiled event isLast isReturned idle

theorem Faithful.of_acting {collection : Collection} {identity : Text} {log : Log}
    {ledger later : Ledger} {request : Request} {returned : Bool} {editor : Editor}
    (faithful : log.Faithful collection identity ledger) (acts : request.acts ledger = true)
    (ended : returns (answer request) log.desk = returned)
    (left : stateAfter (answer request) log.desk = ⟨some later, editor⟩)
    (publisher : later.publisher = some collection)
    (closed : later.disposed = true → later.entries = [])
    (kept : request.concerns identity = false →
      collection.shown editor.calls identity = collection.shown log.desk.editor.calls identity ∧
        later.get identity = ledger.get identity)
    (told : request.concerns identity = true → returned = true →
      collection.shown editor.calls identity = later.get identity) :
    (log.next request).Faithful collection identity later := by
  refine faithful.of_next ended left publisher closed ?_ ?_ ?_
  · rw [acts, Bool.and_true]
    exact kept
  · rw [acts, Bool.and_true]
    exact told
  · exact fun _ still => absurd (still.symm.trans acts) Bool.false_ne_true

/-- One more request keeps the log faithful. -/
theorem Faithful.next {collection : Collection} {identity : Text} {log : Log} {ledger : Ledger}
    (faithful : log.Faithful collection identity ledger) (request : Request) :
    ∃ later, (log.next request).Faithful collection identity later := by
  obtain ⟨⟨filed, editor⟩, events⟩ := log
  obtain rfl : filed = some ledger := faithful.onDesk
  have isPublisher := faithful.publisher
  have outcome := answered ledger editor request
  generalize ended : returns (answer request) ⟨some ledger, editor⟩ = returned at outcome
  generalize left : stateAfter (answer request) ⟨some ledger, editor⟩ = after at outcome
  cases outcome with
  | idle request returned idle =>
    have still := idle.acts_eq_false
    refine ⟨ledger, faithful.of_next ended left isPublisher faithful.closed (fun _ => ⟨rfl, rfl⟩)
      ?_ ?_⟩
    · intro acting
      rw [still, Bool.and_false] at acting
      exact absurd acting Bool.false_ne_true
    · rintro concerned _ rfl
      exact idle.get_eq_nil concerned faithful.closed
  | replaced name diagnostics isOpen returned after told =>
    have acts : (Request.replace name diagnostics).acts ledger = true := by
      rw [Request.acts, isOpen]
      rfl
    refine ⟨_, faithful.of_acting acts ended left isPublisher ?_ ?_ ?_⟩
    · exact fun isClosed => absurd (isOpen.symm.trans isClosed) Bool.false_ne_true
    · intro apart
      have other : identity ≠ name := fun same => absurd apart (by simp [Request.concerns, same])
      exact ⟨told.shown_publish_of_ne isPublisher other, ledger.get_insert_of_ne _ _ _ other⟩
    · rintro concerned rfl
      obtain rfl : name = identity := eq_of_beq concerned
      rw [told.shown_publish_self isPublisher, Ledger.get_insert_self]
  | deleted name isOpen present returned after told =>
    have acts : (Request.delete name).acts ledger = true := by
      rw [Request.acts, isOpen, present]
      rfl
    refine ⟨_, faithful.of_acting acts ended left isPublisher ?_ ?_ ?_⟩
    · exact fun isClosed => absurd (isOpen.symm.trans isClosed) Bool.false_ne_true
    · intro apart
      have other : identity ≠ name := fun same => absurd apart (by simp [Request.concerns, same])
      exact ⟨told.shown_publish_of_ne isPublisher other, ledger.get_erase_of_ne _ _ other⟩
    · rintro concerned rfl
      obtain rfl : name = identity := eq_of_beq concerned
      rw [told.shown_publish_self isPublisher,
        Ledger.get_of_not_contains (ledger.not_contains_erase_self name)]
  | disposed isOpen returned after told =>
    have acts : Request.dispose.acts ledger = true := by
      rw [Request.acts, isOpen]
      rfl
    refine ⟨_, faithful.of_acting acts ended left isPublisher (fun _ => rfl) ?_ ?_⟩
    · exact fun apart => absurd apart.symm Bool.false_ne_true
    · rintro _ rfl
      exact told.shown_clear isPublisher identity

theorem Faithful.run {collection : Collection} {identity : Text} {log : Log} {ledger : Ledger}
    (faithful : log.Faithful collection identity ledger) (requests : List Request) :
    ∃ later, (log.run requests).Faithful collection identity later := by
  induction requests generalizing log ledger with
  | nil => exact ⟨ledger, faithful⟩
  | cons request rest inductionHypothesis =>
    obtain ⟨next, faithfulNext⟩ := faithful.next request
    exact inductionHypothesis faithfulNext

/-- Take any run on a new ledger, with any calls refused, after which the latest request that
concerns an identity has returned. The publisher shows what is filed under the identity exactly if
the latest of those requests that found something to change has returned too, or if the publisher
shows nothing. -/
theorem shown_eq_get_iff (name : String) (collection : Collection) (plan : Nat → Call → Bool)
    (requests : List Request) (identity : Text)
    (settled : ∀ event ∈ ((start name collection plan).run requests).last? identity,
      event.returned = true) :
    ∃ ledger, ((start name collection plan).run requests).desk.ledger = some ledger ∧
      (collection.shown ((start name collection plan).run requests).desk.editor.calls identity =
          ledger.get identity ↔
        (∀ event ∈ ((start name collection plan).run requests).lastActing? identity,
          event.returned = true) ∨
        collection.shown ((start name collection plan).run requests).desk.editor.calls identity =
          []) := by
  obtain ⟨ledger, faithful⟩ := (faithful_start name collection plan identity).run requests
  generalize (start name collection plan).run requests = log at settled faithful ⊢
  refine ⟨ledger, faithful.onDesk, ?_⟩
  cases isLast : log.last? identity with
  | none =>
    have settledActing : ∀ event ∈ log.lastActing? identity, event.returned = true := by
      rw [lastActing?_of_none isLast]
      exact fun event member => absurd member (Option.not_mem_none event)
    exact iff_of_true (faithful.agrees settledActing) (Or.inl settledActing)
  | some event =>
    have returned := settled event isLast
    cases acted : event.acted with
    | true =>
      have settledActing : ∀ event ∈ log.lastActing? identity, event.returned = true := by
        rw [lastActing?_of_acted isLast acted]
        intro other member
        rw [← Option.mem_some_iff.mp member]
        exact returned
      exact iff_of_true (faithful.agrees settledActing) (Or.inl settledActing)
    | false =>
      -- Nothing is filed, so the two agree only if nothing is shown, whatever was refused before.
      have unfiled := faithful.unfiled event isLast returned acted
      constructor
      · exact fun same => Or.inr (same.trans unfiled)
      · rintro (settledActing | blank)
        · exact faithful.agrees settledActing
        · rw [blank, unfiled]

/-- A plan that refuses the second call. -/
def refuseSecond (earlier : Nat) (_ : Call) : Bool := earlier == 1

/-- A diagnostic to file. -/
def remark : Diagnostic where
  start := ⟨0, 0⟩
  stop := ⟨0, 0⟩
  message := "remark".toList
  severity := .warning
  ruleId := "remarks"
  code := none
  hint := none
  category := none

-- Filing again after a refused deletion brings the two together.
theorem shown_eq_get_refuseSecond :
    ∃ ledger, ((start "ledger" ⟨0, "shown"⟩ refuseSecond).run [.replace "a".toList [remark],
        .delete "a".toList, .replace "a".toList [remark]]).desk.ledger = some ledger ∧
      Collection.shown ⟨0, "shown"⟩ ((start "ledger" ⟨0, "shown"⟩ refuseSecond).run
        [.replace "a".toList [remark], .delete "a".toList,
          .replace "a".toList [remark]]).desk.editor.calls "a".toList =
        ledger.get "a".toList := by
  obtain ⟨ledger, onDesk, agree⟩ := shown_eq_get_iff "ledger" ⟨0, "shown"⟩ refuseSecond
    [.replace "a".toList [remark], .delete "a".toList, .replace "a".toList [remark]] "a".toList
    (by decide)
  exact ⟨ledger, onDesk, agree.mpr (Or.inl (by decide))⟩

-- Deleting again after a refused deletion returns, and does not.
theorem shown_ne_get_refuseSecond :
    ((start "ledger" ⟨0, "shown"⟩ refuseSecond).run [.replace "a".toList [remark],
        .delete "a".toList, .delete "a".toList]).last? "a".toList =
      some ⟨.delete "a".toList, true, false⟩ ∧
    ∃ ledger, ((start "ledger" ⟨0, "shown"⟩ refuseSecond).run [.replace "a".toList [remark],
        .delete "a".toList, .delete "a".toList]).desk.ledger = some ledger ∧
      Collection.shown ⟨0, "shown"⟩ ((start "ledger" ⟨0, "shown"⟩ refuseSecond).run
        [.replace "a".toList [remark], .delete "a".toList,
          .delete "a".toList]).desk.editor.calls "a".toList ≠
        ledger.get "a".toList := by
  refine ⟨by decide, _, rfl, ?_⟩
  decide

end Log

end Desk

end IgniterLint
