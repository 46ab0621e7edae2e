/-
This file compares the ledger of a session with what the collections show, from one activation to
the next. As long as no call is refused, a change to the ledger is shown at once: what is filed or
taken out is published under its identity, and a disposal clears the collection along with the
ledger. A session lets go of its ledger only after such a disposal, and the next ledger that it
opens is as empty as the collection it is given. So the latest collection shows what is filed, and
every other collection shows nothing.
-/

import IgniterLint.Proofs.Ledger.Mirror
import IgniterLint.Proofs.Session.Teardown

namespace IgniterLint

open Collection (latest?)

/-! ### Changes as updates -/

namespace Collection

/-- Calls that are not made on a collection do not change what it shows. -/
theorem showAfter_of_elsewhere (collection : Collection) (shown : Text → List Diagnostic)
    {record : CallRecord} (elsewhere : record.call.addressee? ≠ some collection) :
    collection.showAfter shown record = shown := by
  obtain ⟨call, returned⟩ := record
  cases returned with
  | false => rfl
  | true =>
    cases call with
    | publish told identity diagnostics =>
      have other : told ≠ collection := fun same => elsewhere (congrArg some same)
      exact if_neg other
    | clear told =>
      have other : told ≠ collection := fun same => elsewhere (congrArg some same)
      exact if_neg other
    | _ => rfl

theorem shown_append_of_elsewhere (collection : Collection) (calls more : List CallRecord)
    (elsewhere : ∀ record ∈ more, record.call.addressee? ≠ some collection) :
    collection.shown (calls ++ more) = collection.shown calls := by
  induction more using List.reverseRecOn with
  | nil => rw [List.append_nil]
  | append_singleton more record inductionHypothesis =>
    obtain ⟨elsewhereMore, elsewhereRecord⟩ := List.forall_mem_append.mp elsewhere
    rw [← List.append_assoc, shown_append_singleton,
      showAfter_of_elsewhere _ _ (elsewhereRecord record List.mem_cons_self),
      inductionHypothesis elsewhereMore]

end Collection

namespace Ledger

theorem get_insert (ledger : Ledger) (identity : Text) (diagnostics : List Diagnostic) :
    (ledger.insert identity diagnostics).get =
      Function.update ledger.get identity diagnostics := by
  funext wanted
  by_cases same : wanted = identity
  · rw [same, get_insert_self, Function.update_self]
  · rw [get_insert_of_ne _ _ _ _ same, Function.update_of_ne same]

theorem get_erase (ledger : Ledger) (identity : Text) :
    (ledger.erase identity).get = Function.update ledger.get identity [] := by
  funext wanted
  by_cases same : wanted = identity
  · rw [same, get_of_not_contains (ledger.not_contains_erase_self identity), Function.update_self]
  · rw [get_erase_of_ne _ _ _ same, Function.update_of_ne same]

end Ledger

/-! ### Desks -/

namespace Desk

/-- What is filed on the desk to be shown in the collection, by identity. -/
def filedFor (desk : Desk) (collection : Collection) (identity : Text) : List Diagnostic :=
  match desk.ledger with
  | some ledger => if ledger.publisher = some collection then ledger.get identity else []
  | none => []

theorem filedFor_of_publisher {desk : Desk} {ledger : Ledger} {collection : Collection}
    (onDesk : desk.ledger = some ledger) (isPublisher : ledger.publisher = some collection) :
    desk.filedFor collection = ledger.get := by
  funext identity
  rw [filedFor, onDesk]
  exact if_pos isPublisher

theorem filedFor_of_other (desk : Desk) {collection : Collection}
    (other : desk.ledger.bind (·.publisher) ≠ some collection) :
    desk.filedFor collection = fun _ => [] := by
  obtain ⟨filed, editor⟩ := desk
  funext identity
  cases filed with
  | none => rfl
  | some ledger => exact if_neg other

theorem filedFor_of_empty {desk : Desk}
    (empty : ∀ ledger, desk.ledger = some ledger → ledger.entries = []) :
    desk.filedFor = fun _ _ => [] := by
  obtain ⟨filed, editor⟩ := desk
  funext collection identity
  cases filed with
  | none => rfl
  | some ledger =>
    have nothing := Ledger.get_of_entries_nil (empty ledger rfl) identity
    show (if ledger.publisher = some collection then ledger.get identity else []) = []
    rw [nothing, ite_self]

/-- Every collection shows what is filed for it, and nothing is filed once the ledger is closed. -/
structure Mirrored (desk : Desk) : Prop where
  shown : ∀ collection : Collection,
    collection.shown desk.editor.calls = desk.filedFor collection
  closed : ∀ ledger, desk.ledger = some ledger → ledger.disposed = true → ledger.entries = []

/-- Calls that are made on no collection do not matter. -/
theorem Mirrored.of_elsewhere {desk later : Desk} (mirrored : desk.Mirrored)
    {effect : Editor.Effect} (underwent : desk.editor.Underwent later.editor effect)
    (elsewhere : ∀ record ∈ effect.calls, record.call.addressee? = none)
    (same : later.ledger = desk.ledger) : later.Mirrored := by
  refine ⟨fun collection => ?_, by rw [same]; exact mirrored.closed⟩
  have sameFiled : later.filedFor collection = desk.filedFor collection := by
    funext identity
    rw [filedFor, filedFor, same]
  rw [underwent.calls, collection.shown_append_of_elsewhere, mirrored.shown, sameFiled]
  intro record member addressed
  rw [elsewhere record member] at addressed
  exact absurd addressed (Option.some_ne_none collection).symm

/-- When nothing is filed, it does not matter either if a ledger is opened or let go of. -/
theorem Mirrored.of_empty {desk later : Desk} (mirrored : desk.Mirrored) {effect : Editor.Effect}
    (underwent : desk.editor.Underwent later.editor effect)
    (elsewhere : ∀ record ∈ effect.calls, record.call.addressee? = none)
    (wasEmpty : ∀ ledger, desk.ledger = some ledger → ledger.entries = [])
    (isEmpty : ∀ ledger, later.ledger = some ledger → ledger.entries = []) : later.Mirrored := by
  have called : Mirrored ⟨desk.ledger, later.editor⟩ :=
    mirrored.of_elsewhere underwent elsewhere rfl
  have nothing : filedFor ⟨desk.ledger, later.editor⟩ = fun _ _ => [] := filedFor_of_empty wasEmpty
  refine ⟨fun collection => ?_, fun ledger onDesk _ => isEmpty ledger onDesk⟩
  rw [called.shown collection, nothing, filedFor_of_empty isEmpty]

theorem Told.eq_true {ledger : Ledger} {call : Collection → Call} {before after : Editor}
    {returned : Bool} (told : Told ledger call before after returned)
    (unrefused : ∀ record ∈ after.calls, record.returned = true) : returned = true := by
  cases isPublisher : ledger.publisher with
  | none => rw [told.decided, isPublisher]; rfl
  | some collection =>
    refine unrefused ⟨call collection, returned⟩ ?_
    rw [told.underwent.calls, isPublisher]
    exact List.mem_append_right _ List.mem_cons_self

/-- A call on the publisher has to show there what the change makes of the ledger. -/
theorem Mirrored.of_told {ledger left : Ledger} {before after : Editor} {call : Collection → Call}
    (mirrored : Mirrored ⟨some ledger, before⟩) (told : Told ledger call before after true)
    (addressed : ∀ collection, (call collection).addressee? = some collection)
    (samePublisher : left.publisher = ledger.publisher)
    (changed : ∀ collection : Collection,
      collection.showAfter ledger.get ⟨call collection, true⟩ = left.get)
    (closed : left.disposed = true → left.entries = []) : Mirrored ⟨some left, after⟩ := by
  constructor
  · intro collection
    show collection.shown after.calls = _
    have agreed := mirrored.shown collection
    by_cases isPublisher : ledger.publisher = some collection
    · rw [filedFor_of_publisher rfl isPublisher] at agreed
      rw [told.shown_eq isPublisher, filedFor_of_publisher rfl (samePublisher.trans isPublisher),
        ← changed collection]
      exact congrArg (collection.showAfter · _) agreed
    · -- The call is made elsewhere, and nothing is filed for this collection before or after.
      have notPublisher : left.publisher ≠ some collection := by rwa [samePublisher]
      rw [filedFor_of_other ⟨some ledger, before⟩ isPublisher] at agreed
      rw [told.underwent.calls, collection.shown_append_of_elsewhere,
        filedFor_of_other ⟨some left, after⟩ notPublisher]
      · exact agreed
      · intro record member isAddressed
        obtain ⟨publisher, isOther, rfl⟩ := List.mem_map.mp member
        have same := Option.some.inj ((addressed publisher).symm.trans isAddressed)
        exact isPublisher (same ▸ Option.mem_toList.mp isOther)
  · intro other isLeft
    obtain rfl : left = other := Option.some.inj isLeft
    exact closed

theorem Mirrored.of_answered {ledger : Ledger} {editor : Editor} {request : Request}
    {returned : Bool} {desk : Desk} (mirrored : Mirrored ⟨some ledger, editor⟩)
    (answered : Answered ledger editor request returned desk)
    (unrefused : ∀ record ∈ desk.editor.calls, record.returned = true) : desk.Mirrored := by
  cases answered with
  | idle => exact mirrored
  | replaced identity diagnostics isOpen returned after told =>
    obtain rfl := told.eq_true unrefused
    refine mirrored.of_told told (fun _ => rfl) rfl (fun collection => ?_) ?_
    · rw [collection.showAfter_publish, Ledger.get_insert]
    · exact fun isClosed => absurd (isOpen.symm.trans isClosed) Bool.false_ne_true
  | deleted identity isOpen present returned after told =>
    obtain rfl := told.eq_true unrefused
    refine mirrored.of_told told (fun _ => rfl) rfl (fun collection => ?_) ?_
    · rw [collection.showAfter_publish, Ledger.get_erase]
    · exact fun isClosed => absurd (isOpen.symm.trans isClosed) Bool.false_ne_true
  | disposed isOpen returned after told =>
    obtain rfl := told.eq_true unrefused
    refine mirrored.of_told told (fun _ => rfl) rfl (fun collection => ?_) fun _ => rfl
    exact collection.showAfter_clear ledger.get

theorem mirrored_answer (desk : Desk) (request : Request) (mirrored : desk.Mirrored)
    (unrefused : ∀ record ∈ (stateAfter (answer request) desk).editor.calls,
      record.returned = true) : (stateAfter (answer request) desk).Mirrored := by
  refine leads_answer (R := fun before after => before.Mirrored →
    (∀ record ∈ after.editor.calls, record.returned = true) → after.Mirrored) request ?_ ?_ desk
    mirrored unrefused
  · exact fun _ bare _ => bare
  · exact fun _ _ _ _ answered filed => filed.of_answered answered

theorem Answered.disposed_of_returned {ledger : Ledger} {editor : Editor} {desk : Desk}
    (answered : Answered ledger editor .dispose true desk) :
    ∀ left, desk.ledger = some left → left.disposed = true := by
  intro left onDesk
  cases answered with
  | idle _ _ idle =>
    cases idle with
    | disposeClosed closed => rwa [← Option.some.inj onDesk]
  | disposed => rw [← Option.some.inj onDesk]

end Desk

namespace Session

/-! ### Activation and deactivation -/

/-- If no call was refused, every collection shows what is filed for it. -/
def MirroredIfUnrefused (session : Session) : Prop :=
  (∀ record ∈ session.editor.calls, record.returned = true) → session.toDesk.Mirrored

theorem MirroredIfUnrefused.of_underwent {before after : Session}
    (mirrored : before.MirroredIfUnrefused) {effect : Editor.Effect}
    (underwent : before.editor.Underwent after.editor effect)
    (kept : (∀ record ∈ after.editor.calls, record.returned = true) → before.toDesk.Mirrored →
      after.toDesk.Mirrored) : after.MirroredIfUnrefused := by
  intro unrefused
  have unrefusedBefore := unrefused
  rw [underwent.calls, List.forall_mem_append] at unrefusedBefore
  exact kept unrefused (mirrored unrefusedBefore.1)

theorem MirroredIfUnrefused.of_elsewhere {before after : Session}
    (mirrored : before.MirroredIfUnrefused) {effect : Editor.Effect}
    (underwent : before.editor.Underwent after.editor effect)
    (elsewhere : ∀ record ∈ effect.calls, record.call.addressee? = none)
    (same : after.ledger = before.ledger) : after.MirroredIfUnrefused :=
  mirrored.of_underwent underwent fun _ shown => shown.of_elsewhere underwent elsewhere same

theorem MirroredIfUnrefused.of_connect {session : Session}
    (mirrored : session.MirroredIfUnrefused) (inactive : session.isActive = false)
    {later : Session} {collection : Collection} {calls : List CallRecord}
    {made : List Subscription}
    (underwent : session.editor.Underwent later.editor
      ⟨⟨.createCollection session.options.collectionName, true⟩ :: calls, 1, made, []⟩)
    (aside : ∀ record ∈ calls, record.Aside)
    (opened : later.ledger = (connect collection session).ledger) :
    later.MirroredIfUnrefused := by
  refine mirrored.of_underwent underwent fun _ shown => ?_
  refine shown.of_empty underwent ?_ (fun ledger active => ?_) fun ledger isOpened => ?_
  · exact List.forall_mem_cons.mpr ⟨rfl, fun record member => (aside record member).addressee?⟩
  · rw [isActive, active] at inactive
    exact absurd inactive.symm Bool.false_ne_true
  · rw [← Option.some.inj (opened.symm.trans isOpened)]
    rfl

theorem mirrored_activate (session : Session) (mirrored : session.MirroredIfUnrefused) :
    (stateAfter activate session).MirroredIfUnrefused := by
  have outcome := activated session
  unfold stateAfter
  generalize activate session = result at outcome ⊢
  cases outcome with
  | already => exact mirrored
  | refused inactive editor underwent =>
    exact mirrored.of_elsewhere underwent (by simp [Call.addressee?]) rfl
  | halted inactive collection call calls made halted editor underwent =>
    exact mirrored.of_connect inactive underwent halted.aside rfl
  | complete inactive collection subscriptions isFrom editor underwent =>
    exact mirrored.of_connect inactive underwent (aside_subscribing _) rfl

theorem mirrored_deactivate (session : Session) (mirrored : session.MirroredIfUnrefused) :
    (stateAfter deactivate session).MirroredIfUnrefused := by
  have outcome := deactivated session
  unfold stateAfter
  generalize deactivate session = result at outcome ⊢
  have elsewhere (subscriptions : List Subscription) :
      ∀ record ∈ (Editor.Effect.ofEnding subscriptions).calls, record.call.addressee? = none :=
    fun record member => (aside_ofEnding subscriptions record member).addressee?
  cases outcome with
  | halted ended failing rest split editor underwent =>
    refine mirrored.of_elsewhere underwent (List.forall_mem_append.mpr ⟨elsewhere ended, ?_⟩) rfl
    simp [Call.addressee?]
  | bare inactive editor underwent =>
    exact mirrored.of_elsewhere underwent (elsewhere _) inactive.symm
  | refused ledger active editor underwent fault desk answered =>
    obtain ⟨calls, underwentDisposal⟩ := answered.underwent
    refine mirrored.of_underwent (underwent.andThen underwentDisposal) fun unrefused shown => ?_
    have ended : Desk.Mirrored ⟨some ledger, editor⟩ :=
      shown.of_elsewhere underwent (elsewhere _) active.symm
    exact ended.of_answered answered unrefused
  | complete ledger active editor underwent desk answered entry =>
    obtain ⟨calls, underwentDisposal⟩ := answered.underwent
    refine mirrored.of_underwent ((underwent.andThen underwentDisposal).note entry)
      fun unrefused shown => ?_
    have ended : Desk.Mirrored ⟨some ledger, editor⟩ :=
      shown.of_elsewhere underwent (elsewhere _) active.symm
    have disposed := ended.of_answered answered unrefused
    -- The ledger is let go of closed, so there is nothing in it that its collection could miss.
    refine disposed.of_empty (desk.editor.underwent_note entry) (by simp) ?_ ?_
    · intro left onDesk
      exact disposed.closed left onDesk (answered.disposed_of_returned left onDesk)
    · exact fun _ none => absurd none (Option.some_ne_none _).symm

/-! ### Whole courses -/

theorem mirrored_work {before after : Session} (work : Work before after)
    (mirrored : before.MirroredIfUnrefused) : after.MirroredIfUnrefused := by
  cases work with
  | idle editor calls quiet underwent =>
    refine mirrored.of_elsewhere underwent (fun record member => ?_) rfl
    rw [quiet record member]
    rfl
  | ledger desk asked =>
    obtain ⟨request, rfl⟩ := asked
    obtain ⟨calls, underwent⟩ := before.toDesk.underwent_answer request
    exact mirrored.of_underwent underwent fun unrefused shown =>
      before.toDesk.mirrored_answer request shown unrefused

theorem mirrored_ending (session : Session) (subscription : Subscription)
    (mirrored : session.MirroredIfUnrefused) :
    (session.ending subscription).MirroredIfUnrefused := by
  rw [ending, stateAfter_onEditor]
  obtain ⟨returned, underwent⟩ := session.editor.underwent_dispose subscription
  exact mirrored.of_elsewhere underwent (by simp [Call.addressee?]) rfl

theorem mirrored_fresh (options : Options) : (fresh options).MirroredIfUnrefused :=
  fun _ => ⟨fun _ => rfl, fun _ none => absurd none (Option.some_ne_none _).symm⟩

theorem mirrored_course (options : Options) (occurrences : List Occurrence) :
    ((fresh options).course occurrences).MirroredIfUnrefused := by
  refine course_induction _ _ (mirrored_fresh options) (fun _ _ => mirrored_work) mirrored_activate
    mirrored_deactivate mirrored_ending ?_
  exact fun before plan mirrored unrefused =>
    ⟨(mirrored unrefused).shown, (mirrored unrefused).closed⟩

/-- In every course in which no call was refused, the latest collection shows under each identity
what the session's ledger has filed there, if the session is active. Every other collection shows
nothing, and neither does the latest if the session is inactive. -/
theorem shown_across_activations (options : Options) (occurrences : List Occurrence)
    (unrefused : ∀ record ∈ ((fresh options).course occurrences).editor.calls,
      record.returned = true) :
    (∀ ledger, ((fresh options).course occurrences).ledger = some ledger →
      ∃ collection,
        latest? ((fresh options).course occurrences).editor.calls = some collection ∧
        ∀ identity, collection.shown ((fresh options).course occurrences).editor.calls identity =
          ledger.get identity) ∧
    ∀ collection : Collection, (((fresh options).course occurrences).isActive = true →
        latest? ((fresh options).course occurrences).editor.calls ≠ some collection) →
      ∀ identity, collection.shown ((fresh options).course occurrences).editor.calls identity =
        [] := by
  have accounted := accounted_course options occurrences
  have mirrored := mirrored_course options occurrences unrefused
  generalize (fresh options).course occurrences = session at accounted mirrored ⊢
  constructor
  · intro ledger active
    obtain ⟨collection, isPublisher, isLatest, -⟩ := accounted.publisher ledger active
    refine ⟨collection, isLatest, fun identity => ?_⟩
    rw [mirrored.shown collection, Desk.filedFor_of_publisher active isPublisher]
  · intro collection left identity
    rw [mirrored.shown collection, Desk.filedFor_of_other]
    intro filesThere
    obtain ⟨ledger, active, isPublisher⟩ := Option.bind_eq_some_iff.mp filesThere
    obtain ⟨latest, isLatestPublisher, isLatest, -⟩ := accounted.publisher ledger active
    obtain rfl : latest = collection := Option.some.inj (isLatestPublisher.symm.trans isPublisher)
    exact left (by rw [isActive, active]; rfl) isLatest

/-- A session files something in two activations, the second time under another identity. -/
def filedTwice : List Occurrence :=
  [.asked .activate, .asked (.ledger (.replace "a".toList [Desk.Log.remark])),
    .asked .deactivate, .asked .activate,
    .asked (.ledger (.replace "b".toList [Desk.Log.remark]))]

theorem shown_across_activations_filedTwice :
    Collection.shown ⟨0, "codeigniter3"⟩ ((fresh .defaults).course filedTwice).editor.calls
      "a".toList = [] ∧
    ∃ collection,
      latest? ((fresh .defaults).course filedTwice).editor.calls = some collection ∧
      collection.shown ((fresh .defaults).course filedTwice).editor.calls "b".toList =
        [Desk.Log.remark] := by
  have unrefused : ∀ record ∈ ((fresh .defaults).course filedTwice).editor.calls,
      record.returned = true := by decide +kernel
  obtain ⟨current, others⟩ := shown_across_activations .defaults filedTwice unrefused
  refine ⟨others ⟨0, "codeigniter3"⟩ (by decide +kernel) "a".toList, ?_⟩
  obtain ⟨collection, isLatest, shown⟩ := current ⟨"codeigniter3", some ⟨1, "codeigniter3"⟩,
    [("b".toList, [Desk.Log.remark])], false⟩ (by decide +kernel)
  exact ⟨collection, isLatest, shown "b".toList⟩

end Session

end IgniterLint
