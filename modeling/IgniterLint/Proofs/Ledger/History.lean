/-
This file tells the state of a ledger from the history of what was asked of it. A filing lasts as
long as its identity is not deleted and nobody asks to dispose of the ledger, be it that the request
comes to nothing. What lasted, in the order of the requests, is all there is in the ledger: whether
a publication was refused has no say. Once the ledger is closed, requests find it as it was left,
empty, and they change nothing at the desk.

One more request adds its own filing to those that lasted, and strikes those it removes. The
induction over a run needs no more than this step.
-/

import IgniterLint.Proofs.Ledger.Filing
import IgniterLint.Proofs.Ledger.Mirror

namespace IgniterLint

namespace Desk

/-! ### Filings that lasted -/

/-- Whether a request asks to take out what is filed under the identity. -/
def Request.removes (identity : Text) : Request → Bool
  | .delete removed => removed == identity
  | .dispose => true
  | _ => false

/-- What the request filed, if it found the ledger open. -/
def Event.filing? (event : Event) : Option Filing :=
  match event.request with
  | .replace identity diagnostics => if event.acted then some (identity, diagnostics) else none
  | _ => none

/-- The filings of a history that no later request asks to take out. The earliest come first, in the
history as well. -/
def lasting : List Event → List Filing
  | [] => []
  | event :: later =>
    (event.filing?.toList.filter fun filing =>
      !later.any fun other => other.request.removes filing.1) ++ lasting later

theorem lasting_concat (history : List Event) (event : Event) :
    lasting (history ++ [event]) =
      (lasting history).filter (fun filing => !event.request.removes filing.1) ++
        event.filing?.toList := by
  induction history with
  | nil =>
    show (event.filing?.toList.filter fun _ => true) ++ [] = [] ++ event.filing?.toList
    rw [List.append_nil, List.filter_true, List.nil_append]
  | cons first rest inductionHypothesis =>
    rw [List.cons_append, lasting, inductionHypothesis, lasting, List.filter_append,
      List.append_assoc, List.filter_filter]
    congr 1
    refine List.filter_congr fun filing _ => ?_
    rw [List.any_append, Bool.not_or, List.any_cons, List.any_nil, Bool.or_false, Bool.and_comm]

/-- A request that neither files nor removes anything does not matter. -/
theorem lasting_concat_of_idle (history : List Event) {event : Event}
    (filesNone : event.filing? = none)
    (removesNone : ∀ identity, event.request.removes identity = false) :
    lasting (history ++ [event]) = lasting history := by
  rw [lasting_concat, filesNone, Option.toList_none, List.append_nil]
  exact List.filter_eq_self.mpr fun filing _ => by rw [removesNone]; rfl

theorem lasting_concat_replace (history : List Event) (identity : Text)
    (diagnostics : List Diagnostic) (returned : Bool) :
    lasting (history ++ [⟨.replace identity diagnostics, returned, true⟩]) =
      lasting history ++ [(identity, diagnostics)] := by
  rw [lasting_concat]
  exact congrArg (· ++ _) (List.filter_true _)

theorem lasting_concat_delete (history : List Event) (identity : Text) (returned acted : Bool) :
    lasting (history ++ [⟨.delete identity, returned, acted⟩]) =
      (lasting history).filter (·.1 ≠ identity) := by
  rw [lasting_concat]
  refine (List.append_nil _).trans (List.filter_congr fun filing _ => ?_)
  by_cases same : filing.1 = identity
  · simp [Request.removes, same]
  · simp [Request.removes, same, Ne.symm same]

theorem lasting_concat_dispose (history : List Event) (returned acted : Bool) :
    lasting (history ++ [⟨.dispose, returned, acted⟩]) = [] := by
  rw [lasting_concat]
  exact (List.append_nil _).trans (List.filter_false _)

namespace Log

/-- A new ledger, with or without a publisher, at any editor. -/
def opening (name : String) (publisher : Option Collection) (editor : Editor) : Log where
  desk := ⟨some (Ledger.fresh name publisher), editor⟩
  events := []

/-- The filings of a log that lasted, the earliest first. -/
def filings (log : Log) : List Filing := lasting log.events.reverse

/-- Whether a request to dispose of the ledger returned. -/
def isDisposed (log : Log) : Bool :=
  log.events.any fun event => event.request == .dispose && event.returned

theorem run_append (log : Log) (first second : List Request) :
    log.run (first ++ second) = (log.run first).run second := by
  rw [run, List.foldl_append]
  rfl

/-! ### One request -/

/-- The ledger on the desk has what lasted. It is closed if a request to dispose of it returned, and
then nothing lasted. -/
structure Recounts (name : String) (publisher : Option Collection) (log : Log) (ledger : Ledger) :
    Prop where
  onDesk : log.desk.ledger = some ledger
  filed : ledger = { (Ledger.fresh name publisher).insertAll log.filings with
    disposed := ledger.disposed }
  closed : ledger.disposed = true → log.filings = []
  disposed : ledger.disposed = log.isDisposed

section

variable {name : String} {publisher : Option Collection} {log : Log} {ledger later : Ledger}

theorem recounts_opening (name : String) (publisher : Option Collection) (editor : Editor) :
    (opening name publisher editor).Recounts name publisher (Ledger.fresh name publisher) :=
  ⟨rfl, rfl, fun _ => rfl, rfl⟩

theorem Recounts.of_next (recounts : log.Recounts name publisher ledger) {request : Request}
    {returned acted : Bool} {editor : Editor} {lasted : List Filing}
    (ended : returns (answer request) log.desk = returned)
    (acts : log.desk.ledger.any request.acts = acted)
    (left : stateAfter (answer request) log.desk = ⟨some later, editor⟩)
    (lasts : lasting (log.events.reverse ++ [⟨request, returned, acted⟩]) = lasted)
    (filed : later = { (Ledger.fresh name publisher).insertAll lasted with
      disposed := later.disposed })
    (closed : later.disposed = true → lasted = [])
    (disposed : later.disposed = (request == .dispose && returned || ledger.disposed)) :
    (log.next request).Recounts name publisher later := by
  have filings : (log.next request).filings = lasted := by
    rw [Log.filings, next, event, List.reverse_cons, ended, acts, lasts]
  refine ⟨by rw [next, left], ?_, ?_, ?_⟩
  · rw [filings]
    exact filed
  · rw [filings]
    exact closed
  · rw [isDisposed, next, List.any_cons, event, ended, disposed, recounts.disposed]
    rfl

theorem Recounts.erase (recounts : log.Recounts name publisher ledger) (identity : Text) :
    ledger.erase identity = { (Ledger.fresh name publisher).insertAll
      (log.filings.filter (·.1 ≠ identity)) with disposed := ledger.disposed } := by
  conv_lhs => rw [recounts.filed]
  show { ((Ledger.fresh name publisher).insertAll log.filings).erase identity with
    disposed := ledger.disposed } = _
  rw [Ledger.erase_insertAll]
  rfl

/-- A request that changes nothing finds nothing to remove. -/
theorem Recounts.next_of_idle (recounts : log.Recounts name publisher ledger) {request : Request}
    {returned : Bool} {editor : Editor} (idle : Idle ledger request returned)
    (ended : returns (answer request) log.desk = returned)
    (left : stateAfter (answer request) log.desk = ⟨some ledger, editor⟩) :
    (log.next request).Recounts name publisher ledger := by
  have acts : log.desk.ledger.any request.acts = false := by
    rw [recounts.onDesk, Option.any_some, idle.acts_eq_false]
  cases idle with
  | get | contains | identities | replaceClosed =>
    refine recounts.of_next ended acts left ?_ recounts.filed recounts.closed rfl
    exact lasting_concat_of_idle _ rfl fun _ => rfl
  | absent identity isOpen absent =>
    refine recounts.of_next ended acts left (lasting_concat_delete _ _ _ _) ?_ ?_ rfl
    · rw [← Ledger.erase_of_not_contains absent]
      exact recounts.erase identity
    · exact fun isClosed => absurd (isOpen.symm.trans isClosed) Bool.false_ne_true
  | deleteClosed identity isClosed =>
    have nothing : lasting log.events.reverse = [] := recounts.closed isClosed
    refine recounts.of_next ended acts left ?_ recounts.filed recounts.closed rfl
    rw [lasting_concat_delete, nothing]
    exact nothing.symm
  | disposeClosed isClosed =>
    refine recounts.of_next ended acts left ?_ recounts.filed recounts.closed isClosed
    rw [lasting_concat_dispose]
    exact (recounts.closed isClosed).symm

/-- The log goes on recounting with one more request. -/
theorem Recounts.next (recounts : log.Recounts name publisher ledger) (request : Request) :
    ∃ later, (log.next request).Recounts name publisher later := by
  obtain ⟨⟨filed, editor⟩, events⟩ := log
  obtain rfl : filed = some ledger := recounts.onDesk
  have outcome := answered ledger editor request
  generalize ended : returns (answer request) ⟨some ledger, editor⟩ = returned at outcome
  generalize left : stateAfter (answer request) ⟨some ledger, editor⟩ = after at outcome
  have stays (isOpen : ledger.disposed = false) {lasted : List Filing} :
      ledger.disposed = true → lasted = [] :=
    fun isClosed => absurd (isOpen.symm.trans isClosed) Bool.false_ne_true
  cases outcome with
  | idle request returned idle => exact ⟨ledger, recounts.next_of_idle idle ended left⟩
  | replaced identity diagnostics isOpen returned after told =>
    refine ⟨_, recounts.of_next ended ?_ left (lasting_concat_replace _ _ _ _) ?_ (stays isOpen)
      rfl⟩
    · rw [Option.any_some, Request.acts, isOpen]
      rfl
    · rw [Ledger.insertAll_concat]
      conv_lhs => rw [recounts.filed]
      rfl
  | deleted identity isOpen present returned after told =>
    exact ⟨_, recounts.of_next ended rfl left (lasting_concat_delete _ _ _ _)
      (recounts.erase identity) (stays isOpen) rfl⟩
  | disposed isOpen returned after told =>
    have cleared : ledger.clear =
        { Ledger.fresh name publisher with disposed := ledger.disposed } := by
      conv_lhs => rw [recounts.filed]
      show { ((Ledger.fresh name publisher).insertAll _).clear with
        disposed := ledger.disposed } = _
      rw [Ledger.clear_insertAll]
      rfl
    refine ⟨_, recounts.of_next ended rfl left (lasting_concat_dispose _ _ _) ?_ (fun _ => rfl) ?_⟩
    · rw [cleared]
      rfl
    · rw [isOpen, Bool.or_false]
      rfl

/-! ### Whole runs -/

theorem Recounts.run (recounts : log.Recounts name publisher ledger) (requests : List Request) :
    ∃ later, (log.run requests).Recounts name publisher later := by
  induction requests generalizing log ledger with
  | nil => exact ⟨ledger, recounts⟩
  | cons request rest inductionHypothesis =>
    obtain ⟨next, recountsNext⟩ := recounts.next request
    exact inductionHypothesis recountsNext

end

/-- At a closed ledger, no request changes anything. -/
theorem desk_run_of_closed {log : Log} {ledger : Ledger} (onDesk : log.desk.ledger = some ledger)
    (closed : ledger.disposed = true) (requests : List Request) :
    (log.run requests).desk = log.desk := by
  have still (request : Request) : stateAfter (answer request) log.desk = log.desk := by
    obtain ⟨⟨filed, editor⟩, events⟩ := log
    obtain rfl : filed = some ledger := onDesk
    have outcome := answered ledger editor request
    generalize returns (answer request) _ = returned at outcome
    generalize stateAfter (answer request) _ = left at outcome ⊢
    have notOpen : ledger.disposed ≠ false := ne_of_eq_of_ne closed Bool.noConfusion
    cases outcome with
    | idle => rfl
    | replaced _ _ isOpen => exact absurd isOpen notOpen
    | deleted _ isOpen => exact absurd isOpen notOpen
    | disposed isOpen => exact absurd isOpen notOpen
  exact List.foldlRecOn (motive := fun after : Log => after.desk = log.desk) requests next rfl
    fun before same request _ => by rw [next, same, still]

end Log

/-- What is found in the ledger under an identity is the latest filing under it, if there is one,
and the identities are listed once each, in the order of their first filings. -/
structure Holds (ledger : Ledger) (filings : List Filing) : Prop where
  found : ∀ identity, ledger.get identity =
    ((filings.filter (·.1 = identity)).getLast?.map (·.2)).getD []
  distinct : ledger.identities.Nodup
  listed : ledger.identities = (filings.map (·.1)).eraseDups

/-- The ledger of this name is closed and empty, and refuses what would change it. -/
structure Shut (name : String) (desk : Desk) : Prop where
  empty : ∃ ledger, desk.ledger = some ledger ∧ ledger.disposed = true ∧ ledger.entries = []
  replace : ∀ identity diagnostics,
    answer (.replace identity diagnostics) desk = .error (.ledgerDisposed name) desk
  delete : ∀ identity, answer (.delete identity) desk = .error (.ledgerDisposed name) desk

namespace Log

theorem Recounts.holds {name : String} {publisher : Option Collection} {log : Log}
    {ledger : Ledger} (recounts : log.Recounts name publisher ledger) :
    Holds ledger log.filings := by
  have distinct : (Ledger.fresh name publisher).identities.Nodup := List.nodup_nil
  rw [recounts.filed]
  exact ⟨Ledger.get_insertAll name publisher log.filings,
    Ledger.nodup_identities_insertAll distinct log.filings,
    Ledger.identities_insertAll name publisher log.filings⟩

theorem Recounts.shut {name : String} {publisher : Option Collection} {log : Log}
    {ledger : Ledger} (recounts : log.Recounts name publisher ledger)
    (closed : ledger.disposed = true) : Shut name log.desk := by
  have filed := recounts.filed
  rw [recounts.closed closed] at filed
  have sameName : ledger.name = name := by rw [filed]; rfl
  obtain ⟨⟨onDesk, editor⟩, events⟩ := log
  obtain rfl : onDesk = some ledger := recounts.onDesk
  have refused := openLedger_of_closed editor closed
  rw [sameName] at refused
  refine ⟨⟨ledger, rfl, closed, by rw [filed]; rfl⟩, fun identity diagnostics => ?_,
    fun identity => ?_⟩
  · exact bind_of_error (bind_of_error refused)
  · exact bind_of_error (bind_of_error refused)

/-- Take any run on a new ledger, with or without a publisher and with any calls refused. The ledger
holds the filings that lasted. It is closed if a request to dispose of it returned, and then it
stays so whatever is asked later: nothing changes at the desk, and what would change the ledger is
refused. -/
theorem run_holds_lasting (name : String) (publisher : Option Collection) (editor : Editor)
    (requests : List Request) :
    ∃ ledger, ((opening name publisher editor).run requests).desk.ledger = some ledger ∧
      Holds ledger ((opening name publisher editor).run requests).filings ∧
      ledger.disposed = ((opening name publisher editor).run requests).isDisposed ∧
      (ledger.disposed = true → ∀ later,
        ((opening name publisher editor).run (requests ++ later)).desk =
          ((opening name publisher editor).run requests).desk ∧
        Shut name ((opening name publisher editor).run (requests ++ later)).desk) := by
  obtain ⟨ledger, recounts⟩ := (recounts_opening name publisher editor).run requests
  refine ⟨ledger, recounts.onDesk, recounts.holds, recounts.disposed, fun closed later => ?_⟩
  have same := desk_run_of_closed recounts.onDesk closed later
  rw [run_append, same]
  exact ⟨rfl, recounts.shut closed⟩

/-- A plan that refuses the fifth call. -/
def refuseFifth (earlier : Nat) (_ : Call) : Bool := earlier == 4

/-- An identity is deleted and filed under again; then a disposal is refused, and there are more
filings. -/
def refilling : List Request :=
  [.replace "a".toList [remark], .replace "b".toList [], .delete "a".toList,
    .replace "a".toList [], .dispose, .replace "c".toList [], .replace "b".toList [remark],
    .replace "c".toList [remark]]

theorem run_holds_lasting_refilling :
    (∃ ledger, ((opening "ledger" (some ⟨0, "shown"⟩)
        { Editor.fresh with refuses := refuseFifth }).run refilling).desk.ledger = some ledger ∧
      ledger.identities = ["c".toList, "b".toList] ∧ ledger.get "c".toList = [remark] ∧
      ledger.get "a".toList = [] ∧ ledger.disposed = false) ∧
    Shut "ledger" ((opening "ledger" (some ⟨0, "shown"⟩)
      { Editor.fresh with refuses := refuseFifth }).run
        (refilling ++ [.dispose] ++ [.replace "a".toList [remark]])).desk := by
  have filled := run_holds_lasting "ledger" (some ⟨0, "shown"⟩)
    { Editor.fresh with refuses := refuseFifth } refilling
  have emptied := run_holds_lasting "ledger" (some ⟨0, "shown"⟩)
    { Editor.fresh with refuses := refuseFifth } (refilling ++ [.dispose])
  obtain ⟨ledger, onDesk, holds, disposed, _⟩ := filled
  obtain ⟨left, _, _, closed, later⟩ := emptied
  refine ⟨⟨ledger, onDesk, ?_, ?_, ?_, ?_⟩, (later ?_ [.replace "a".toList [remark]]).2⟩
  · exact holds.listed.trans (by decide +kernel)
  · exact (holds.found _).trans (by decide +kernel)
  · exact (holds.found _).trans (by decide +kernel)
  · exact disposed.trans (by decide +kernel)
  · exact closed.trans (by decide +kernel)

end Log

end Desk

end IgniterLint
