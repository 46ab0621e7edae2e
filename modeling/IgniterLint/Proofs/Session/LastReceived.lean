/-
This file says what an active session has filed, in terms of the documents that reached it. Opening
and saving bring a document to the session, directly or through its subscriptions, and the command
brings the one in front of the user, if the editor tells. Of these the session takes those that are
in its language and have an identity. The latest one taken under an identity decides what is filed
there, whatever was published or refused in between, and the identities are listed in the order in
which they first came.

The ledger is followed by one step for each request: it files the documents that the request brought
and changes in no other way. A whole run then files all that reached the session, one after the
other, and what is left is a fact about filing.
-/

import IgniterLint.Proofs.Ledger.Filing
import IgniterLint.Proofs.Session.Lifecycle

namespace IgniterLint

/-- Whether a session with these options takes the document: it is in the session's language and has
an identity. -/
def Options.takes (options : Options) (document : Document) : Bool :=
  document.language == options.language && document.identity != []

/-- What the rules of a session with these options report about the document. -/
def Options.report (options : Options) (document : Document) : List Diagnostic :=
  Rule.reportAll document.text (Roles.ofPath document.identity) (Rule.defaults options.registry)

namespace Ledger

/-! ### Filing documents -/

/-- The ledger after the documents that are taken were filed, one after the other. -/
def fileAll (options : Options) (ledger : Ledger) (documents : List Document) : Ledger :=
  (documents.filter options.takes).foldl
    (fun ledger document => ledger.insert document.identity (options.report document)) ledger

theorem fileAll_append (options : Options) (ledger : Ledger) (first second : List Document) :
    ledger.fileAll options (first ++ second) =
      (ledger.fileAll options first).fileAll options second := by
  rw [fileAll, List.filter_append, List.foldl_append]
  rfl

theorem fileAll_singleton (options : Options) (ledger : Ledger) (document : Document) :
    ledger.fileAll options [document] =
      if options.takes document then ledger.insert document.identity (options.report document)
      else ledger := by
  rw [fileAll]
  split
  · next taken => rw [List.filter_cons_of_pos taken]; rfl
  · next left => rw [List.filter_cons_of_neg left]; rfl

theorem put_put (identity : Text) (diagnostics : List Diagnostic)
    (entries : List (Text × List Diagnostic)) :
    put identity diagnostics (put identity diagnostics entries) =
      put identity diagnostics entries := by
  induction entries with
  | nil => simp [put]
  | cons entry rest inductionHypothesis =>
    by_cases same : entry.1 = identity
    · simp [put, same]
    · simp [put, same, inductionHypothesis]

/-- A document that comes again changes nothing. -/
theorem fileAll_twice (options : Options) (ledger : Ledger) (document : Document) :
    (ledger.fileAll options [document]).fileAll options [document] =
      ledger.fileAll options [document] := by
  rw [fileAll_singleton, fileAll_singleton]
  split
  · rw [insert, insert, put_put]
  · rfl

theorem disposed_fileAll (options : Options) (ledger : Ledger) (documents : List Document) :
    (ledger.fileAll options documents).disposed = ledger.disposed := by
  rw [fileAll]
  exact List.foldlRecOn (motive := fun filed : Ledger => filed.disposed = ledger.disposed) _ _ rfl
    fun _ same _ _ => same

theorem fileAll_eq_insertAll (options : Options) (ledger : Ledger) (documents : List Document) :
    ledger.fileAll options documents =
      ledger.insertAll ((documents.filter options.takes).map fun document =>
        (document.identity, options.report document)) := by
  rw [fileAll, insertAll, List.foldl_map]

/-- The latest of the documents with an identity decides what is filed under it. -/
theorem get_fileAll (options : Options) (name : String) (publisher : Option Collection)
    (documents : List Document) (identity : Text) :
    ((fresh name publisher).fileAll options documents).get identity =
      (((documents.filter options.takes).filter (·.identity = identity)).getLast?.map
        options.report).getD [] := by
  rw [fileAll_eq_insertAll, get_insertAll, List.filter_map, List.getLast?_map, Option.map_map]
  rfl

/-- The identities come in the order in which they were first filed. -/
theorem identities_fileAll (options : Options) (name : String) (publisher : Option Collection)
    (documents : List Document) :
    ((fresh name publisher).fileAll options documents).identities =
      ((documents.filter options.takes).map (·.identity)).eraseDups := by
  rw [fileAll_eq_insertAll, identities_insertAll, List.map_map]
  rfl

end Ledger

namespace Session

/-! ### What reaches a session -/

/-- The requests that bring documents to a session, and those by which the editor turns to another
document or changes what it refuses. -/
def Request.isDelivery : Request → Bool
  | .opened _ | .saved _ | .command _ | .face _ | .receive _ | .runCommand | .refuse _ => true
  | _ => false

/-- The document in front of the user, if there is one and the editor tells. -/
def shownDocument (editor : Editor) : List Document :=
  match Editor.activeDocument editor with
  | .ok (some document) _ => [document]
  | _ => []

/-- The documents that a request brings to a session. An event of the editor brings its document if
a subscription to it stands. -/
def brought (session : Session) : Request → List Document
  | .receive document => [document]
  | .opened document => if (session.editor.live .opened).isEmpty then [] else [document]
  | .saved document => if (session.editor.live .saved).isEmpty then [] else [document]
  | .runCommand => shownDocument session.editor
  | .command id =>
    if (liveCommands id session.editor).isEmpty then [] else shownDocument session.editor
  | _ => []

/-- The documents that reach a session in a run of requests, the earliest first. -/
def reached (session : Session) : List Request → List Document
  | [] => []
  | request :: rest =>
    session.brought request ++ (stateAfter (answer request) session).reached rest

/-- The documents that a session takes in a run of requests, the earliest first. -/
def taken (session : Session) (requests : List Request) : List Document :=
  (session.reached requests).filter session.options.takes

/-- The session is active, with these options and with this ledger, which is open. -/
structure Serving (options : Options) (ledger : Ledger) (session : Session) : Prop where
  chosen : session.options = options
  filed : session.ledger = some ledger
  isOpen : ledger.disposed = false
  attached : session.attached = true
  running : session.engine = some ⟨Rule.defaults options.registry⟩

section

variable {options : Options} {ledger : Ledger} {session : Session}

theorem Serving.of_editor (serving : Serving options ledger session) (editor : Editor) :
    Serving options ledger { session with editor := editor } :=
  ⟨serving.chosen, serving.filed, serving.isOpen, serving.attached, serving.running⟩

theorem leads_serving_note (entry : JournalEntry) :
    Leads (Keeps (Serving options ledger)) (onDesk (Desk.note entry)) :=
  fun session serving => serving.of_editor (session.editor.note entry)

/-- A session that was just activated has an empty ledger. -/
theorem Serving.of_activate {before start : Session} {handed : List Subscription}
    (activated : activate before = .ok handed start) :
    ∃ name publisher, Serving before.options (Ledger.fresh name publisher) start := by
  have outcome := Session.activated before
  rw [activated] at outcome
  cases outcome with
  | complete => exact ⟨_, _, rfl, rfl, rfl, rfl, rfl⟩

/-! ### One request -/

theorem Serving.onDesk_analyze (serving : Serving options ledger session) (document : Document)
    (taken : options.takes document = true) :
    Serving options (ledger.fileAll options [document])
      (stateAfter (onDesk (Engine.analyze ⟨Rule.defaults options.registry⟩ document)) session) := by
  have table : (Engine.mk (Rule.defaults options.registry)).rules =
      Rule.defaults options.registry := rfl
  obtain ⟨diagnostics, diagnosed, filed⟩ :=
    Engine.filesIn_of_defaults table serving.filed document
  rw [Engine.diagnose, Rule.runAll_eq _ _ _ (Rule.soundOn_defaults _ _)] at diagnosed
  obtain rfl := Except.ok.inj diagnosed
  rw [stateAfter_onDesk]
  refine ⟨serving.chosen, ?_, ?_, serving.attached, serving.running⟩
  · rw [filed, serving.isOpen, Ledger.fileAll_singleton, if_pos taken]
    rfl
  · rw [Ledger.disposed_fileAll, serving.isOpen]

theorem Serving.receive_eq (serving : Serving options ledger session) (document : Document) :
    receive document session =
      (if document.language = options.language then
        if document.identity = [] then onDesk (Desk.note .skippedNameless)
        else do
          let diagnostics ← onDesk (Engine.analyze ⟨Rule.defaults options.registry⟩ document)
          onDesk (Desk.note (.analyzed document.identity diagnostics.length))
      else pure () : Action Unit) session := by
  obtain ⟨desk, chosen, attached, engine, subscriptions, handed⟩ := session
  obtain rfl : chosen = options := serving.chosen
  obtain rfl : engine = some ⟨Rule.defaults chosen.registry⟩ := serving.running
  rfl

/-- A session files the document that it receives, if it takes it, whatever the editor makes of
it. -/
theorem Serving.after_receive (serving : Serving options ledger session) (document : Document) :
    Serving options (ledger.fileAll options [document])
      (stateAfter (receive document) session) := by
  rw [stateAfter_congr (serving.receive_eq document)]
  by_cases sameLanguage : document.language = options.language
  · rw [if_pos sameLanguage]
    by_cases nameless : document.identity = []
    · have left : ¬ options.takes document = true := by simp [Options.takes, nameless]
      rw [if_pos nameless, Ledger.fileAll_singleton, if_neg left]
      exact leads_serving_note _ session serving
    · have taken : options.takes document = true := by
        simp [Options.takes, sameLanguage, nameless]
      rw [if_neg nameless]
      exact stateAfter_bind_of_kept (serving.onDesk_analyze document taken)
        fun diagnostics => leads_serving_note _
  · have left : ¬ options.takes document = true := by simp [Options.takes, sameLanguage]
    rw [if_neg sameLanguage, Ledger.fileAll_singleton, if_neg left]
    exact serving

/-- Once a document is filed, receiving it again leaves the ledger as it is. -/
theorem leads_serving_receive (document : Document) :
    Leads (Keeps (Serving options (ledger.fileAll options [document]))) (receive document) := by
  intro session serving
  have again := serving.after_receive document
  rwa [Ledger.fileAll_twice] at again

theorem Serving.after_fire (serving : Serving options ledger session) (trigger : Trigger)
    (document : Document) :
    Serving options (ledger.fileAll options
        (if (session.editor.live trigger).isEmpty then [] else [document]))
      (stateAfter (fire trigger document) session) := by
  show Serving options _ (stateAfter ((session.editor.live trigger).forM (fun _ => receive document)
    >>= fun _ => (do return ((← get).editor.live trigger).length : Action Nat)) session)
  rw [stateAfter_bind_of_idle _ fun _ _ => rfl]
  cases session.editor.live trigger with
  | nil => exact serving
  | cons subscription others =>
    exact stateAfter_bind_of_kept (serving.after_receive document)
      fun _ => Leads.forM others _ fun _ => leads_serving_receive document

theorem Serving.after_runCommand (serving : Serving options ledger session) :
    Serving options (ledger.fileAll options (shownDocument session.editor))
      (stateAfter runCommand session) := by
  have step : runCommand session = (onEditor Editor.activeDocument >>= fun shown =>
      shown.elim (onDesk (Desk.note (.noActiveDocument session.options.commandId))) receive)
        session := by
    show (if session.attached then _ else _ : Action Unit) session = _
    rw [serving.attached, if_pos rfl]
    refine congrFun (bind_congr fun shown => ?_) session
    cases shown <;> rfl
  rw [stateAfter_congr step, stateAfter_bind, shownDocument]
  cases answered : Editor.activeDocument session.editor with
  | error fault editor =>
    rw [onEditor_of_error answered]
    exact serving.of_editor editor
  | ok shown editor =>
    rw [onEditor_of_ok answered]
    cases shown with
    | none => exact leads_serving_note _ _ (serving.of_editor editor)
    | some document => exact (serving.of_editor editor).after_receive document

theorem Serving.after_fireCommand (serving : Serving options ledger session) (id : String) :
    Serving options (ledger.fileAll options
        (if (liveCommands id session.editor).isEmpty then [] else shownDocument session.editor))
      (stateAfter (fireCommand id) session) := by
  show Serving options _ (stateAfter (if (liveCommands id session.editor).isEmpty then _ else _)
    session)
  split
  · exact serving
  · exact stateAfter_bind_of_kept serving.after_runCommand fun _ => leads_pure _

/-- A request files the documents that it brought, and changes the ledger in no other way. -/
theorem Serving.after_answer (serving : Serving options ledger session) (request : Request)
    (delivering : request.isDelivery = true) :
    Serving options (ledger.fileAll options (session.brought request))
      (stateAfter (answer request) session) := by
  cases request with
  | opened document =>
    exact stateAfter_bind_of_kept (serving.after_fire .opened document) fun _ => leads_pure _
  | saved document =>
    exact stateAfter_bind_of_kept (serving.after_fire .saved document) fun _ => leads_pure _
  | command id => exact stateAfter_bind_of_kept (serving.after_fireCommand id) fun _ => leads_pure _
  | face document => exact serving.of_editor _
  | receive document =>
    exact stateAfter_bind_of_kept (serving.after_receive document) fun _ => leads_pure _
  | runCommand => exact stateAfter_bind_of_kept serving.after_runCommand fun _ => leads_pure _
  | refuse plan => exact serving.of_editor _
  | activate => exact absurd delivering Bool.false_ne_true
  | deactivate => exact absurd delivering Bool.false_ne_true
  | disposeHanded index => exact absurd delivering Bool.false_ne_true
  | ledger request => exact absurd delivering Bool.false_ne_true

/-! ### Whole runs -/

/-- A run files the documents that reached the session, one after the other. -/
theorem Serving.after_run (serving : Serving options ledger session) (requests : List Request)
    (delivering : ∀ request ∈ requests, request.isDelivery = true) :
    Serving options (ledger.fileAll options (session.reached requests))
      (session.run requests) := by
  induction requests generalizing session ledger with
  | nil => exact serving
  | cons request rest inductionHypothesis =>
    have step := serving.after_answer request (delivering request List.mem_cons_self)
    rw [reached, Ledger.fileAll_append]
    exact inductionHypothesis step fun other member =>
      delivering other (List.mem_cons_of_mem request member)

end

/-- The documents that a session takes under an identity, the earliest first. -/
def takenAs (session : Session) (requests : List Request) (identity : Text) : List Document :=
  (session.taken requests).filter (·.identity = identity)

/-- What the ledger of a session that was just activated has after a run. -/
theorem exists_ledger_after_run {before start : Session} {handed : List Subscription}
    (activated : activate before = .ok handed start) (requests : List Request)
    (delivering : ∀ request ∈ requests, request.isDelivery = true) :
    ∃ ledger, (start.run requests).ledger = some ledger ∧
      (∀ identity, ledger.get identity =
        ((start.takenAs requests identity).getLast?.map start.options.report).getD []) ∧
      ledger.identities = ((start.taken requests).map (·.identity)).eraseDups := by
  obtain ⟨name, publisher, serving⟩ := Serving.of_activate activated
  rw [← serving.chosen] at serving
  refine ⟨_, (serving.after_run requests delivering).filed, fun identity => ?_, ?_⟩
  · rw [Ledger.get_fileAll]
    rfl
  · rw [Ledger.identities_fileAll]
    rfl

theorem contains_iff_takenAs_ne_nil {ledger : Ledger} {session : Session} {requests : List Request}
    (listed : ledger.identities = ((session.taken requests).map (·.identity)).eraseDups)
    (identity : Text) :
    ledger.contains identity = true ↔ session.takenAs requests identity ≠ [] := by
  rw [Ledger.contains, listed, List.contains_iff_mem, List.mem_eraseDups, List.mem_map, takenAs,
    Ne, List.filter_eq_nil_iff]
  simp

/-- After any run of requests that bring documents to a session that was just activated, whatever is
refused on the way, what is filed under an identity is what the rules report about the latest
document that the session took under it, and nothing if there was none. The identities are listed in
the order in which they first came. So two such runs that agree on the documents of each identity
leave the same entries, in whatever order the identities alternate. -/
theorem get_eq_of_lastTaken (before start : Session) (handed : List Subscription)
    (activated : activate before = .ok handed start) (requests : List Request)
    (delivering : ∀ request ∈ requests, request.isDelivery = true) :
    ∃ ledger, (start.run requests).ledger = some ledger ∧
      (∀ identity,
        (start.takenAs requests identity = [] → ledger.get identity = []) ∧
        ∀ document, (start.takenAs requests identity).getLast? = some document →
          Rule.runAll document.text (Roles.ofPath identity)
            (Rule.defaults start.options.registry) = .ok (ledger.get identity)) ∧
      ledger.identities = ((start.taken requests).map (·.identity)).eraseDups ∧
      ∀ (earlier other : Session) (otherHanded : List Subscription),
        activate earlier = .ok otherHanded other → other.options = start.options →
        ∀ others : List Request, (∀ request ∈ others, request.isDelivery = true) →
          (∀ identity, other.takenAs others identity = start.takenAs requests identity) →
          ∃ otherLedger, (other.run others).ledger = some otherLedger ∧
            ∀ identity, otherLedger.get identity = ledger.get identity ∧
              otherLedger.contains identity = ledger.contains identity := by
  obtain ⟨ledger, filed, found, listed⟩ := exists_ledger_after_run activated requests delivering
  refine ⟨ledger, filed, fun identity => ⟨fun untaken => ?_, fun document latest => ?_⟩, listed, ?_⟩
  · rw [found, untaken]
    rfl
  · have same : document.identity = identity :=
      of_decide_eq_true (List.mem_filter.mp (List.mem_of_getLast? latest)).2
    rw [found, latest, Rule.runAll_eq _ _ _ (Rule.soundOn_defaults _ _), ← same]
    rfl
  · intro earlier other otherHanded otherActivated sameOptions others otherDelivering agree
    obtain ⟨otherLedger, otherFiled, otherFound, otherListed⟩ :=
      exists_ledger_after_run otherActivated others otherDelivering
    refine ⟨otherLedger, otherFiled, fun identity => ⟨?_, ?_⟩⟩
    · rw [otherFound, found, agree, sameOptions]
    · rw [Bool.eq_iff_iff, contains_iff_takenAs_ne_nil otherListed,
        contains_iff_takenAs_ne_nil listed, agree]

/-- A plan that refuses every publication. -/
def refusePublications : Nat → Call → Bool
  | _, .publish _ _ _ => true
  | _, _ => false

/-- A session that was activated at an editor which refuses every publication. -/
def unpublished : Session := stateAfter activate ((fresh .defaults).refusing refusePublications)

/-- A controller is opened, then another file, and then the controller is checked again by the
command after an edit. A text in another language comes last. -/
def revisions : List Request :=
  [.receive ⟨"controllers/A.php".toList, "class A".toList, "php"⟩,
    .receive ⟨"b.php".toList, [], "php"⟩,
    .face (some ⟨"controllers/A.php".toList, "class A extends CI_Controller".toList, "php"⟩),
    .runCommand, .receive ⟨"controllers/A.php".toList, "class A".toList, "html"⟩]

theorem get_eq_of_lastTaken_revisions :
    ∃ handed ledger,
      activate ((fresh .defaults).refusing refusePublications) = .ok handed unpublished ∧
      (unpublished.run revisions).ledger = some ledger ∧
      ledger.identities = ["controllers/A.php".toList, "b.php".toList] ∧
      Rule.runAll "class A extends CI_Controller".toList
        (Roles.ofPath "controllers/A.php".toList) (Rule.defaults .unaware) =
          .ok (ledger.get "controllers/A.php".toList) := by
  obtain ⟨handed, activated⟩ : ∃ handed,
      activate ((fresh .defaults).refusing refusePublications) = .ok handed unpublished := ⟨_, rfl⟩
  obtain ⟨ledger, filed, found, listed, -⟩ :=
    get_eq_of_lastTaken _ _ handed activated revisions (by decide)
  have order : ((unpublished.taken revisions).map (·.identity)).eraseDups =
      ["controllers/A.php".toList, "b.php".toList] := by decide +kernel
  have latest : (unpublished.takenAs revisions "controllers/A.php".toList).getLast? =
      some ⟨"controllers/A.php".toList, "class A extends CI_Controller".toList, "php"⟩ := by
    decide +kernel
  have registry : unpublished.options.registry = .unaware := rfl
  have filedLast := (found "controllers/A.php".toList).2 _ latest
  rw [registry] at filedLast
  exact ⟨handed, ledger, activated, filed, listed.trans order, filedLast⟩

end Session

end IgniterLint
