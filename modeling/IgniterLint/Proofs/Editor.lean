/-
This file says what calls do to the editor. Every call is put on record, and nothing else changes
when it is refused, but for the end of a subscription, which is marked either way. A call that
returns adds what was asked for: a collection, or a subscription with the next number. An effect
sums such changes up, and effects are put together in the order of the calls.
-/

import IgniterLint.Editor
import IgniterLint.Proofs.Action

namespace IgniterLint

namespace Editor

/-- What calls did to an editor: the calls, how many collections were handed out, the subscriptions
made, and the numbers of those ended, the latest first. -/
structure Effect where
  calls : List CallRecord
  collections : Nat
  made : List Subscription
  ended : List Nat

/-- One effect after the other. -/
def Effect.andThen (first second : Effect) : Effect where
  calls := first.calls ++ second.calls
  collections := first.collections + second.collections
  made := first.made ++ second.made
  ended := second.ended ++ first.ended

theorem Effect.andThen_assoc (first second third : Effect) :
    (first.andThen second).andThen third = first.andThen (second.andThen third) := by
  simp only [andThen, List.append_assoc, Nat.add_assoc]

/-- What comes of ending these subscriptions, one after the other and without a refusal. -/
def Effect.ofEnding (subscriptions : List Subscription) : Effect where
  calls := subscriptions.map fun subscription => ⟨.dispose subscription, true⟩
  collections := 0
  made := []
  ended := (subscriptions.map (·.number)).reverse

/-- Ending subscriptions is ending the first and then the rest. -/
theorem Effect.ofEnding_cons (subscription : Subscription) (rest : List Subscription) :
    Effect.ofEnding (subscription :: rest) =
      (⟨[⟨.dispose subscription, true⟩], 0, [], [subscription.number]⟩ : Effect).andThen
        (Effect.ofEnding rest) := by
  simp only [ofEnding, andThen, List.map_cons, List.reverse_cons, List.cons_append, List.nil_append,
    Nat.add_zero]

/-- The effect is all that happened to the editor, lines of the journal and the document in front of
the user aside. -/
structure Underwent (before after : Editor) (effect : Effect) : Prop where
  calls : after.calls = before.calls ++ effect.calls
  collections : after.collections = before.collections + effect.collections
  subscriptions : after.subscriptions = before.subscriptions ++ effect.made
  disposed : after.disposed = effect.ended ++ before.disposed
  refuses : after.refuses = before.refuses

/-- Nothing happened to an editor that differs from before in its journal and document at most. -/
theorem underwent_of_same {before after : Editor} (calls : after.calls = before.calls)
    (collections : after.collections = before.collections)
    (subscriptions : after.subscriptions = before.subscriptions)
    (disposed : after.disposed = before.disposed) (refuses : after.refuses = before.refuses) :
    before.Underwent after ⟨[], 0, [], []⟩ := by
  refine ⟨?_, collections, ?_, disposed, refuses⟩
  · rw [calls, List.append_nil]
  · rw [subscriptions, List.append_nil]

/-- Effects add up along the calls, so what an operation does to the editor is the sum of what its
calls do. -/
theorem Underwent.andThen {first second third : Editor} {effect later : Effect}
    (underwent : first.Underwent second effect) (underwentLater : second.Underwent third later) :
    first.Underwent third (effect.andThen later) where
  calls := by rw [underwentLater.calls, underwent.calls, List.append_assoc]; rfl
  collections := by rw [underwentLater.collections, underwent.collections, Nat.add_assoc]; rfl
  subscriptions := by
    rw [underwentLater.subscriptions, underwent.subscriptions, List.append_assoc]; rfl
  disposed := by rw [underwentLater.disposed, underwent.disposed, ← List.append_assoc]; rfl
  refuses := underwentLater.refuses.trans underwent.refuses

theorem underwent_note (editor : Editor) (entry : JournalEntry) :
    editor.Underwent (editor.note entry) ⟨[], 0, [], []⟩ :=
  underwent_of_same rfl rfl rfl rfl rfl

theorem Underwent.note {before after : Editor} {effect : Effect}
    (underwent : before.Underwent after effect) (entry : JournalEntry) :
    before.Underwent (after.note entry) effect :=
  ⟨underwent.calls, underwent.collections, underwent.subscriptions, underwent.disposed,
    underwent.refuses⟩

/-! ### Calls -/

/-- The editor with a call on record. -/
def recorded (editor : Editor) (call : Call) (returned : Bool) : Editor :=
  { editor with calls := editor.calls ++ [⟨call, returned⟩] }

theorem underwent_recorded (editor : Editor) (call : Call) (returned : Bool) :
    editor.Underwent (editor.recorded call returned) ⟨[⟨call, returned⟩], 0, [], []⟩ :=
  ⟨rfl, rfl, (List.append_nil _).symm, rfl, rfl⟩

/-- A call that is refused leaves the editor as it was, but for the record of it. -/
theorem perform_of_refused {editor : Editor} {call : Call}
    (refused : editor.refuses editor.calls.length call = true) :
    perform call editor = .error (.refused call.name) (editor.recorded call false) := by
  unfold perform
  simp only [refused, if_true, Bool.not_true]
  rfl

theorem perform_of_allowed {editor : Editor} {call : Call}
    (allowed : editor.refuses editor.calls.length call = false) :
    perform call editor = .ok () (editor.recorded call true) := by
  unfold perform
  simp only [allowed, Bool.false_eq_true, if_false, Bool.not_false]
  rfl

/-- Either way the call is on record, and the record tells whether it returned. -/
theorem stateAfter_perform (call : Call) (editor : Editor) :
    stateAfter (perform call) editor =
      editor.recorded call (!editor.refuses editor.calls.length call) := by
  cases answered : editor.refuses editor.calls.length call with
  | true => rw [stateAfter_of_error (perform_of_refused answered)]; rfl
  | false => rw [stateAfter_of_ok (perform_of_allowed answered)]; rfl

theorem underwent_activeDocument (editor : Editor) :
    ∃ returned, editor.Underwent (stateAfter activeDocument editor)
      ⟨[⟨.activeDocument, returned⟩], 0, [], []⟩ := by
  unfold activeDocument
  rw [stateAfter_bind_of_idle _ fun _ _ => rfl, stateAfter_perform]
  exact ⟨_, editor.underwent_recorded _ _⟩

/-- A call to end a subscription is refused or returns, and marks the subscription as ended either
way. -/
theorem dispose_cases (subscription : Subscription) (editor : Editor) :
    (∃ after, dispose subscription editor =
        .error (.refused (Call.dispose subscription).name) after ∧
      editor.Underwent after ⟨[⟨.dispose subscription, false⟩], 0, [], [subscription.number]⟩) ∨
    ∃ after, dispose subscription editor = .ok () after ∧
      editor.Underwent after ⟨[⟨.dispose subscription, true⟩], 0, [], [subscription.number]⟩ := by
  have marked : (modify fun editor => { editor with
      disposed := subscription.number :: editor.disposed } : EStateM SessionFault Editor PUnit)
      editor = .ok PUnit.unit { editor with
        disposed := subscription.number :: editor.disposed } := rfl
  cases answered : editor.refuses editor.calls.length (.dispose subscription) with
  | true =>
    refine Or.inl ⟨_, (bind_of_ok marked).trans (perform_of_refused answered), ?_⟩
    exact ⟨rfl, rfl, (List.append_nil _).symm, rfl, rfl⟩
  | false =>
    refine Or.inr ⟨_, (bind_of_ok marked).trans (perform_of_allowed answered), ?_⟩
    exact ⟨rfl, rfl, (List.append_nil _).symm, rfl, rfl⟩

theorem underwent_dispose (editor : Editor) (subscription : Subscription) :
    ∃ returned, editor.Underwent (stateAfter (dispose subscription) editor)
      ⟨[⟨.dispose subscription, returned⟩], 0, [], [subscription.number]⟩ := by
  rcases dispose_cases subscription editor with
    ⟨after, failed, underwent⟩ | ⟨after, ended, underwent⟩
  · rw [stateAfter_of_error failed]
    exact ⟨false, underwent⟩
  · rw [stateAfter_of_ok ended]
    exact ⟨true, underwent⟩

/-- A call for a collection is refused, or hands out one with the next number. -/
theorem createCollection_cases (name : String) (editor : Editor) :
    (∃ after, createCollection name editor = .error (.refused "create_collection") after ∧
      editor.Underwent after ⟨[⟨.createCollection name, false⟩], 0, [], []⟩) ∨
    ∃ after, createCollection name editor = .ok ⟨editor.collections, name⟩ after ∧
      editor.Underwent after ⟨[⟨.createCollection name, true⟩], 1, [], []⟩ := by
  cases answered : editor.refuses editor.calls.length (.createCollection name) with
  | true => exact Or.inl ⟨_, bind_of_error (perform_of_refused answered), underwent_recorded _ _ _⟩
  | false =>
    refine Or.inr ⟨{ editor.recorded (.createCollection name) true with
      collections := editor.collections + 1 }, bind_of_ok (perform_of_allowed answered), ?_⟩
    exact ⟨rfl, rfl, (List.append_nil _).symm, rfl, rfl⟩

/-- A call for a subscription is refused and makes none, or makes one with the next number. -/
theorem subscribe_cases (trigger : Trigger) (commandId : String) (editor : Editor) :
    (∃ after, subscribe trigger commandId editor =
        .error (.refused (subscribeCall trigger commandId).name) after ∧
      editor.Underwent after ⟨[⟨subscribeCall trigger commandId, false⟩], 0, [], []⟩) ∨
    ∃ after, subscribe trigger commandId editor =
        .ok ⟨editor.subscriptions.length, trigger, commandId⟩ after ∧
      editor.Underwent after ⟨[⟨subscribeCall trigger commandId, true⟩], 0,
        [⟨editor.subscriptions.length, trigger, commandId⟩], []⟩ := by
  cases answered : editor.refuses editor.calls.length (subscribeCall trigger commandId) with
  | true => exact Or.inl ⟨_, bind_of_error (perform_of_refused answered), underwent_recorded _ _ _⟩
  | false =>
    refine Or.inr ⟨{ editor.recorded (subscribeCall trigger commandId) true with
      subscriptions := editor.subscriptions ++
        [⟨editor.subscriptions.length, trigger, commandId⟩] },
      bind_of_ok (perform_of_allowed answered), ?_⟩
    exact ⟨rfl, rfl, rfl, rfl, rfl⟩

end Editor

end IgniterLint
