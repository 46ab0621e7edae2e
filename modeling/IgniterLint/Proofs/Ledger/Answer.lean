/-
This file says what each request does to a ledger and to the editor that it publishes in. There is
one way to be answered for each thing that a request can change; every other request leaves the desk
as it was. A change is in the ledger even when publishing it was refused.
-/

import IgniterLint.Ledger
import IgniterLint.Proofs.Editor

namespace IgniterLint

namespace Desk

/-- The ledger's publisher was told, if there is one, and this came of it. -/
structure Told (ledger : Ledger) (call : Collection → Call) (before after : Editor)
    (returned : Bool) : Prop where
  underwent : before.Underwent after
    ⟨ledger.publisher.toList.map fun collection => ⟨call collection, returned⟩, 0, [], []⟩
  decided : returned = !ledger.publisher.any fun collection =>
    before.refuses before.calls.length (call collection)

/-- The request changes nothing, and whether it returns. -/
inductive Idle (ledger : Ledger) : Request → Bool → Prop
  | get (identity : Text) : Idle ledger (.get identity) true
  | contains (identity : Text) : Idle ledger (.contains identity) true
  | identities : Idle ledger .identities true
  | absent (identity : Text) (isOpen : ledger.disposed = false)
    (absent : ledger.contains identity = false) : Idle ledger (.delete identity) true
  | replaceClosed (identity : Text) (diagnostics : List Diagnostic)
    (closed : ledger.disposed = true) : Idle ledger (.replace identity diagnostics) false
  | deleteClosed (identity : Text) (closed : ledger.disposed = true) :
    Idle ledger (.delete identity) false
  | disposeClosed (closed : ledger.disposed = true) : Idle ledger .dispose true

/-- How a request is answered at a desk with a ledger: whether it returns, and what it leaves. -/
inductive Answered (ledger : Ledger) (editor : Editor) : Request → Bool → Desk → Prop
  | idle (request : Request) (returned : Bool) (idle : Idle ledger request returned) :
    Answered ledger editor request returned ⟨some ledger, editor⟩
  | replaced (identity : Text) (diagnostics : List Diagnostic) (isOpen : ledger.disposed = false)
    (returned : Bool) (after : Editor)
    (told : Told ledger (.publish · identity diagnostics) editor after returned) :
    Answered ledger editor (.replace identity diagnostics) returned
      ⟨some (ledger.insert identity diagnostics), after⟩
  | deleted (identity : Text) (isOpen : ledger.disposed = false)
    (present : ledger.contains identity = true) (returned : Bool) (after : Editor)
    (told : Told ledger (.publish · identity []) editor after returned) :
    Answered ledger editor (.delete identity) returned ⟨some (ledger.erase identity), after⟩
  | disposed (isOpen : ledger.disposed = false) (returned : Bool) (after : Editor)
    (told : Told ledger .clear editor after returned) :
    Answered ledger editor .dispose returned
      ⟨some { ledger.clear with disposed := returned }, after⟩

theorem Told.of_note {ledger : Ledger} {call : Collection → Call} {before after : Editor}
    {returned : Bool} {entry : JournalEntry}
    (told : Told ledger call (before.note entry) after returned) :
    Told ledger call before after returned :=
  ⟨(before.underwent_note entry).andThen told.underwent, told.decided⟩

theorem Told.note {ledger : Ledger} {call : Collection → Call} {before after : Editor}
    {returned : Bool} (told : Told ledger call before after returned) (entry : JournalEntry) :
    Told ledger call before (after.note entry) returned :=
  ⟨told.underwent.note entry, told.decided⟩

theorem tellPublisher_cases (ledger : Ledger) (call : Collection → Call) (desk : Desk) :
    (∃ after, tellPublisher ledger call desk = .ok () { desk with editor := after } ∧
      Told ledger call desk.editor after true) ∨
    ∃ fault after, tellPublisher ledger call desk = .error fault { desk with editor := after } ∧
      Told ledger call desk.editor after false := by
  cases isPublisher : ledger.publisher with
  | some collection =>
    have recorded (returned : Bool) : desk.editor.Underwent
        (desk.editor.recorded (call collection) returned)
        ⟨ledger.publisher.toList.map fun collection => ⟨call collection, returned⟩, 0, [], []⟩ := by
      rw [isPublisher]
      exact desk.editor.underwent_recorded _ _
    cases answered : desk.editor.refuses desk.editor.calls.length (call collection) with
    | true =>
      refine Or.inr ⟨.refused (call collection).name, _, ?_, recorded false, ?_⟩
      · rw [tellPublisher, isPublisher]
        simp only [onEditor, Editor.perform_of_refused answered]
      · rw [isPublisher, Option.any_some, answered]
        rfl
    | false =>
      refine Or.inl ⟨_, ?_, recorded true, ?_⟩
      · rw [tellPublisher, isPublisher]
        simp only [onEditor, Editor.perform_of_allowed answered]
      · rw [isPublisher, Option.any_some, answered]
        rfl
  | none =>
    refine Or.inl ⟨desk.editor, ?_, ?_, ?_⟩
    · rw [tellPublisher, isPublisher]
      rfl
    · rw [isPublisher]
      exact Editor.underwent_of_same rfl rfl rfl rfl rfl
    · rw [isPublisher]
      rfl

/-! ### The requests one by one -/

section

variable {ledger : Ledger} (editor : Editor)

theorem openLedger_of_open (isOpen : ledger.disposed = false) :
    openLedger ⟨some ledger, editor⟩ = .ok ledger ⟨some ledger, editor⟩ := by
  show (if ledger.disposed then throw _ else pure ledger : Action Ledger) _ = _
  rw [isOpen]
  rfl

theorem openLedger_of_closed (closed : ledger.disposed = true) :
    openLedger ⟨some ledger, editor⟩ =
      .error (.ledgerDisposed ledger.name) ⟨some ledger, editor⟩ := by
  show (if ledger.disposed then throw _ else pure ledger : Action Ledger) _ = _
  rw [closed]
  rfl

theorem replace_of_open (isOpen : ledger.disposed = false) (identity : Text)
    (diagnostics : List Diagnostic) :
    replace identity diagnostics ⟨some ledger, editor⟩ =
      tellPublisher ledger (.publish · identity diagnostics)
        ⟨some (ledger.insert identity diagnostics),
          editor.note (.stored diagnostics.length identity ledger.name)⟩ :=
  bind_of_ok (openLedger_of_open editor isOpen)

theorem delete_of_open (isOpen : ledger.disposed = false) (identity : Text) :
    delete identity ⟨some ledger, editor⟩ =
      if ledger.contains identity then
        tellPublisher ledger (.publish · identity []) ⟨some (ledger.erase identity), editor⟩
      else .ok () ⟨some ledger, editor⟩ := by
  refine (bind_of_ok (openLedger_of_open editor isOpen)).trans ?_
  split <;> rfl

theorem dispose_of_open (isOpen : ledger.disposed = false) :
    dispose ⟨some ledger, editor⟩ =
      (tellPublisher ledger .clear >>= fun _ => do
        place { ledger.clear with disposed := true }
        note (.ledgerDisposed ledger.name) : Action Unit) ⟨some ledger.clear, editor⟩ := by
  show (if ledger.disposed then pure () else _ : Action Unit) _ = _
  rw [isOpen]
  rfl

theorem dispose_of_closed (closed : ledger.disposed = true) :
    dispose ⟨some ledger, editor⟩ = .ok () ⟨some ledger, editor⟩ := by
  show (if ledger.disposed then pure () else _ : Action Unit) _ = _
  rw [closed]
  rfl

end

theorem Answered.of_ok {ledger : Ledger} {editor : Editor} {request : Request} {reply : Reply}
    {after : Desk} (returned : answer request ⟨some ledger, editor⟩ = .ok reply after)
    (answered : Answered ledger editor request true after) :
    Answered ledger editor request (returns (answer request) ⟨some ledger, editor⟩)
      (stateAfter (answer request) ⟨some ledger, editor⟩) := by
  rw [returns, stateAfter, returned]
  exact answered

theorem Answered.of_error {ledger : Ledger} {editor : Editor} {request : Request}
    {fault : SessionFault} {after : Desk}
    (failed : answer request ⟨some ledger, editor⟩ = .error fault after)
    (answered : Answered ledger editor request false after) :
    Answered ledger editor request (returns (answer request) ⟨some ledger, editor⟩)
      (stateAfter (answer request) ⟨some ledger, editor⟩) := by
  rw [returns, stateAfter, failed]
  exact answered

theorem answered_replace (ledger : Ledger) (editor : Editor) (identity : Text)
    (diagnostics : List Diagnostic) :
    Answered ledger editor (.replace identity diagnostics)
      (returns (answer (.replace identity diagnostics)) ⟨some ledger, editor⟩)
      (stateAfter (answer (.replace identity diagnostics)) ⟨some ledger, editor⟩) := by
  cases closed : ledger.disposed with
  | true =>
    refine .of_error (bind_of_error (bind_of_error (openLedger_of_closed editor closed))) ?_
    exact .idle _ _ (.replaceClosed _ _ closed)
  | false =>
    have step := replace_of_open editor closed identity diagnostics
    rcases tellPublisher_cases ledger (.publish · identity diagnostics)
        ⟨some (ledger.insert identity diagnostics),
          editor.note (.stored diagnostics.length identity ledger.name)⟩ with
      ⟨after, returned, told⟩ | ⟨fault, after, failed, told⟩
    · refine .of_ok (bind_of_ok (step.trans returned)) ?_
      exact .replaced identity diagnostics closed true after told.of_note
    · refine .of_error (bind_of_error (step.trans failed)) ?_
      exact .replaced identity diagnostics closed false after told.of_note

theorem answered_delete (ledger : Ledger) (editor : Editor) (identity : Text) :
    Answered ledger editor (.delete identity)
      (returns (answer (.delete identity)) ⟨some ledger, editor⟩)
      (stateAfter (answer (.delete identity)) ⟨some ledger, editor⟩) := by
  cases closed : ledger.disposed with
  | true =>
    refine .of_error (bind_of_error (bind_of_error (openLedger_of_closed editor closed))) ?_
    exact .idle _ _ (.deleteClosed _ closed)
  | false =>
    have step := delete_of_open editor closed identity
    cases present : ledger.contains identity with
    | false =>
      rw [present, if_neg Bool.false_ne_true] at step
      exact .of_ok (bind_of_ok step) (.idle _ _ (.absent identity closed present))
    | true =>
      rw [present, if_pos rfl] at step
      rcases tellPublisher_cases ledger (.publish · identity [])
          ⟨some (ledger.erase identity), editor⟩ with
        ⟨after, returned, told⟩ | ⟨fault, after, failed, told⟩
      · refine .of_ok (bind_of_ok (step.trans returned)) ?_
        exact .deleted identity closed present true after told
      · refine .of_error (bind_of_error (step.trans failed)) ?_
        exact .deleted identity closed present false after told

theorem answered_dispose (ledger : Ledger) (editor : Editor) :
    Answered ledger editor .dispose (returns (answer .dispose) ⟨some ledger, editor⟩)
      (stateAfter (answer .dispose) ⟨some ledger, editor⟩) := by
  cases closed : ledger.disposed with
  | true =>
    exact .of_ok (bind_of_ok (dispose_of_closed editor closed)) (.idle _ _ (.disposeClosed closed))
  | false =>
    have step := dispose_of_open editor closed
    rcases tellPublisher_cases ledger .clear ⟨some ledger.clear, editor⟩ with
      ⟨after, returned, told⟩ | ⟨fault, after, failed, told⟩
    · refine .of_ok (bind_of_ok (step.trans (bind_of_ok returned))) ?_
      exact .disposed closed true _ (told.note _)
    · have kept : { ledger.clear with disposed := false } = ledger.clear := by
        rw [← closed]
        rfl
      refine .of_error (bind_of_error (step.trans (bind_of_error failed))) ?_
      have answered := Answered.disposed closed false after told
      rwa [kept] at answered

/-- Every request at a desk with a ledger is answered in one of the ways there are. -/
theorem answered (ledger : Ledger) (editor : Editor) (request : Request) :
    Answered ledger editor request (returns (answer request) ⟨some ledger, editor⟩)
      (stateAfter (answer request) ⟨some ledger, editor⟩) := by
  cases request with
  | replace identity diagnostics => exact answered_replace ledger editor identity diagnostics
  | get identity => exact .idle _ _ (.get identity)
  | delete identity => exact answered_delete ledger editor identity
  | contains identity => exact .idle _ _ (.contains identity)
  | identities => exact .idle _ _ .identities
  | dispose => exact answered_dispose ledger editor

theorem dispose_cases (ledger : Ledger) (editor : Editor) :
    (∃ fault desk, dispose ⟨some ledger, editor⟩ = .error fault desk ∧
      Answered ledger editor .dispose false desk) ∨
    ∃ desk, dispose ⟨some ledger, editor⟩ = .ok () desk ∧
      Answered ledger editor .dispose true desk := by
  have outcome := answered_dispose ledger editor
  cases disposed : dispose ⟨some ledger, editor⟩ with
  | ok _ desk =>
    have returned : answer .dispose ⟨some ledger, editor⟩ = .ok .nothing desk :=
      bind_of_ok disposed
    rw [returns, stateAfter, returned] at outcome
    exact Or.inr ⟨desk, rfl, outcome⟩
  | error fault desk =>
    have failed : answer .dispose ⟨some ledger, editor⟩ = .error fault desk :=
      bind_of_error disposed
    rw [returns, stateAfter, failed] at outcome
    exact Or.inl ⟨fault, desk, rfl, outcome⟩

/-- A desk without a ledger has nothing to change. -/
theorem stateAfter_answer_of_none (editor : Editor) (request : Request) :
    stateAfter (answer request) ⟨none, editor⟩ = ⟨none, editor⟩ := by
  cases request <;> rfl

/-- A request leads along every relation that its answers keep to, provided that a desk without a
ledger is related to itself. -/
theorem leads_answer {R : Desk → Desk → Prop} (request : Request)
    (bare : ∀ editor, R ⟨none, editor⟩ ⟨none, editor⟩)
    (kept : ∀ ledger editor returned desk, Answered ledger editor request returned desk →
      R ⟨some ledger, editor⟩ desk) : Leads R (answer request) := by
  intro desk
  obtain ⟨filed, editor⟩ := desk
  cases filed with
  | none =>
    rw [stateAfter_answer_of_none]
    exact bare editor
  | some ledger => exact kept ledger editor _ _ (answered ledger editor request)

/-- Asking the ledger for something touches no subscription and no collection. -/
theorem Answered.underwent {ledger : Ledger} {editor : Editor} {request : Request}
    {returned : Bool} {desk : Desk} (answered : Answered ledger editor request returned desk) :
    ∃ calls, editor.Underwent desk.editor ⟨calls, 0, [], []⟩ := by
  cases answered with
  | idle => exact ⟨[], Editor.underwent_of_same rfl rfl rfl rfl rfl⟩
  | replaced _ _ _ _ _ told => exact ⟨_, told.underwent⟩
  | deleted _ _ _ _ _ told => exact ⟨_, told.underwent⟩
  | disposed _ _ _ told => exact ⟨_, told.underwent⟩

theorem underwent_answer (desk : Desk) (request : Request) :
    ∃ calls,
      desk.editor.Underwent (stateAfter (answer request) desk).editor ⟨calls, 0, [], []⟩ := by
  refine leads_answer (R := fun before after =>
    ∃ calls, before.editor.Underwent after.editor ⟨calls, 0, [], []⟩) request ?_ ?_ desk
  · exact fun editor => ⟨[], Editor.underwent_of_same rfl rfl rfl rfl rfl⟩
  · exact fun _ _ _ _ answered => answered.underwent

end Desk

end IgniterLint
