/-
This file settles how a session stands between requests, whatever was refused on the way. It is
either down, with no ledger, no engine, no way to the editor and no subscription on its record, or
it is up, with all three of them wired together. A session that is up can name the activation that
opened its ledger, and what it has on record is what that activation was given, or nothing: nothing
while its subscriptions were refused, and nothing once they have ended.

The argument is an induction on the course of occurrences, from its end. Most occurrences are
steady: they leave the fields of the session alone, and of the ledger they leave its name and its
publisher. Activating and deactivating are followed by their outcomes.
-/

import IgniterLint.Proofs.Engine
import IgniterLint.Proofs.Rule.Defaults
import IgniterLint.Proofs.Session.Outcome

namespace IgniterLint

/-! ### Where an engine files -/

/-- Whatever the document, the check of it returns, and the engine files what it returns in this
ledger at the desk, unless the ledger is closed. -/
def Engine.FilesIn (engine : Engine) (ledger : Ledger) (desk : Desk) : Prop :=
  ∀ document, ∃ diagnostics, engine.diagnose document = .ok diagnostics ∧
    (stateAfter (engine.analyze document) desk).ledger =
      some (if ledger.disposed then ledger else ledger.insert document.identity diagnostics)

theorem Engine.stateAfter_analyze {engine : Engine} {document : Document}
    {diagnostics : List Diagnostic} (diagnosed : engine.diagnose document = .ok diagnostics)
    (ledger : Ledger) (editor : Editor) :
    stateAfter (engine.analyze document) ⟨some ledger, editor⟩ =
      stateAfter (Desk.answer (.replace document.identity diagnostics))
        ⟨some ledger, editor⟩ := by
  rw [stateAfter_congr (analyze_of_ok diagnosed ledger editor),
    stateAfter_bind_of_idle _ fun _ _ => rfl]
  exact (stateAfter_bind_of_idle _ (fun _ _ => rfl) _).symm

/-- An engine with the rules that stand by default files in whatever ledger is on the desk. -/
theorem Engine.filesIn_of_defaults {engine : Engine} {registry : Registry} {ledger : Ledger}
    {desk : Desk} (rules : engine.rules = Rule.defaults registry)
    (onDesk : desk.ledger = some ledger) : engine.FilesIn ledger desk := by
  obtain ⟨filed, editor⟩ := desk
  obtain rfl : filed = some ledger := onDesk
  intro document
  have diagnosed : engine.diagnose document = .ok (Rule.reportAll document.text
      (Roles.ofPath document.identity) (Rule.defaults registry)) := by
    rw [diagnose, rules, Rule.runAll_eq _ _ _ (Rule.soundOn_defaults registry _)]
  refine ⟨_, diagnosed, ?_⟩
  rw [stateAfter_analyze diagnosed]
  have outcome := Desk.answered_replace ledger editor document.identity
    (Rule.reportAll document.text (Roles.ofPath document.identity) (Rule.defaults registry))
  generalize returns _ _ = returned at outcome
  generalize stateAfter _ _ = after at outcome ⊢
  cases outcome with
  | idle _ _ idle =>
    cases idle with
    | replaceClosed _ _ closed => rw [if_pos closed]
  | replaced _ _ isOpen => rw [if_neg (Bool.eq_false_iff.mp isOpen)]

/-! ### What an occurrence leaves alone -/

/-- What a ledger has for good: its name and its publisher. -/
def Ledger.label (ledger : Ledger) : String × Option Collection := (ledger.name, ledger.publisher)

theorem Desk.Answered.label_eq {ledger : Ledger} {editor : Editor} {request : Request}
    {returned : Bool} {desk : Desk} (answered : Answered ledger editor request returned desk) :
    desk.ledger.map Ledger.label = some ledger.label := by
  cases answered <;> rfl

theorem Desk.label_answer (desk : Desk) (request : Request) :
    (stateAfter (answer request) desk).ledger.map Ledger.label = desk.ledger.map Ledger.label :=
  leads_answer (R := fun before after =>
      after.ledger.map Ledger.label = before.ledger.map Ledger.label)
    request (fun _ => rfl) (fun _ _ _ _ answered => answered.label_eq) desk

namespace Session

/-- The session is wired as it was, with the same ledger; it forgot its subscriptions at most. -/
structure Steady (before after : Session) : Prop where
  options : after.options = before.options
  attached : after.attached = before.attached
  engine : after.engine = before.engine
  label : after.ledger.map Ledger.label = before.ledger.map Ledger.label
  subscriptions : after.subscriptions = before.subscriptions ∨ after.subscriptions = []

instance : IsPreorder Session Steady where
  refl session := ⟨rfl, rfl, rfl, rfl, Or.inl rfl⟩
  trans := by
    intro first second third steady later
    refine ⟨later.options.trans steady.options, later.attached.trans steady.attached,
      later.engine.trans steady.engine, later.label.trans steady.label, ?_⟩
    rcases later.subscriptions with kept | forgotten
    · rw [kept]
      exact steady.subscriptions
    · exact Or.inr forgotten

theorem steady_of_editor (session : Session) (editor : Editor) :
    Steady session { session with editor := editor } :=
  ⟨rfl, rfl, rfl, rfl, Or.inl rfl⟩

theorem steady_work {before after : Session} (work : Work before after) : Steady before after := by
  cases work with
  | idle editor => exact steady_of_editor before editor
  | ledger desk asked =>
    obtain ⟨request, rfl⟩ := asked
    exact ⟨rfl, rfl, rfl, before.toDesk.label_answer request, Or.inl rfl⟩

theorem steady_ending (session : Session) (subscription : Subscription) :
    Steady session (session.ending subscription) := by
  rw [ending, stateAfter_onEditor]
  exact steady_of_editor _ _

theorem steady_refusing (session : Session) (plan : Nat → Call → Bool) :
    Steady session (session.refusing plan) := steady_of_editor _ _

theorem steady_next (session : Session) (occurrence : Occurrence)
    (notActivate : occurrence ≠ .asked .activate)
    (notDeactivate : occurrence ≠ .asked .deactivate) :
    Steady session (session.next occurrence) :=
  related_next (fun _ _ => steady_work) steady_ending steady_refusing occurrence
    (fun same => absurd same notActivate) (fun same => absurd same notDeactivate) session

theorem next_activate (session : Session) :
    session.next (.asked .activate) = stateAfter activate session :=
  stateAfter_bind_of_idle _ (fun _ _ => rfl) session

theorem next_deactivate (session : Session) :
    session.next (.asked .deactivate) = stateAfter deactivate session :=
  stateAfter_bind_of_idle _ (fun _ _ => rfl) session

theorem options_activate (session : Session) :
    (stateAfter activate session).options = session.options := by
  have outcome := activated session
  unfold stateAfter
  generalize activate session = result at outcome ⊢
  cases outcome <;> rfl

theorem options_deactivate (session : Session) :
    (stateAfter deactivate session).options = session.options := by
  have outcome := deactivated session
  unfold stateAfter
  generalize deactivate session = result at outcome ⊢
  cases outcome <;> rfl

theorem options_course (options : Options) (occurrences : List Occurrence) :
    ((fresh options).course occurrences).options = options := by
  refine course_induction (motive := fun session => session.options = options) _ _ rfl
    ?_ ?_ ?_ ?_ ?_
  · exact fun before after work same => (steady_work work).options.trans same
  · exact fun before same => (options_activate before).trans same
  · exact fun before same => (options_deactivate before).trans same
  · exact fun before subscription same => (steady_ending before subscription).options.trans same
  · exact fun before plan same => same

/-! ### Down and up -/

/-- The session has no ledger, no engine, no way to the editor and nothing on record. -/
structure Down (session : Session) : Prop where
  ledger : session.ledger = none
  attached : session.attached = false
  engine : session.engine = none
  subscriptions : session.subscriptions = []

/-- The session has a ledger of the name it is to have, an engine with the rules it is to have, and
a way to the editor. -/
structure Up (session : Session) (ledger : Ledger) (engine : Engine) : Prop where
  filed : session.ledger = some ledger
  attached : session.attached = true
  running : session.engine = some engine
  name : ledger.name = session.options.collectionName
  rules : engine.rules = Rule.defaults session.options.registry

/-- An activation took place between the two courses and opened a ledger, with the next collection
of the editor for its publisher; and the ledger has been on the desk ever since. -/
structure ActiveSince (options : Options) (earlier later : List Occurrence) : Prop where
  inactive : ((fresh options).course earlier).isActive = false
  kept : ∀ middle, middle <+: later →
    ((fresh options).course (earlier ++ .asked .activate :: middle)).ledger.map Ledger.label =
      some (options.collectionName,
        some ⟨((fresh options).course earlier).editor.collections, options.collectionName⟩)

/-- The session has nothing on record, or exactly the three subscriptions that the editor made for
the activation of the session before. -/
def Records (before session : Session) : Prop :=
  session.subscriptions = [] ∨ ∃ after, activate before = .ok session.subscriptions after ∧
    after.editor.subscriptions = before.editor.subscriptions ++ session.subscriptions ∧
    session.subscriptions.map (·.trigger) = [.opened, .saved, .command]

/-- How a session stands after a course of occurrences. -/
inductive Standing (options : Options) (occurrences : List Occurrence) : Prop
  | down (down : ((fresh options).course occurrences).Down)
  | up (ledger : Ledger) (engine : Engine)
    (up : ((fresh options).course occurrences).Up ledger engine)
    (earlier later : List Occurrence) (split : occurrences = earlier ++ .asked .activate :: later)
    (since : ActiveSince options earlier later)
    (records : Records ((fresh options).course earlier) ((fresh options).course occurrences))

theorem Steady.down {before after : Session} (steady : Steady before after) (down : before.Down) :
    after.Down := by
  refine ⟨?_, steady.attached.trans down.attached, steady.engine.trans down.engine, ?_⟩
  · have label := steady.label
    rwa [down.ledger, Option.map_none, Option.map_eq_none_iff] at label
  · rcases steady.subscriptions with kept | forgotten
    · exact kept.trans down.subscriptions
    · exact forgotten

theorem Steady.up {before after : Session} (steady : Steady before after) {ledger : Ledger}
    {engine : Engine} (up : before.Up ledger engine) : ∃ left, after.Up left engine := by
  have label := steady.label
  rw [up.filed, Option.map_some, Option.map_eq_some_iff] at label
  obtain ⟨left, onDesk, sameLabel⟩ := label
  refine ⟨left, onDesk, steady.attached.trans up.attached, steady.engine.trans up.running, ?_, ?_⟩
  · rw [steady.options, ← up.name]
    exact congrArg Prod.fst sameLabel
  · rw [steady.options]
    exact up.rules

theorem Steady.records {before session after : Session} (steady : Steady session after)
    (records : Records before session) : Records before after := by
  rcases steady.subscriptions with kept | forgotten
  · rw [Records, kept]
    exact records
  · exact Or.inl forgotten

theorem ActiveSince.append {options : Options} {earlier later : List Occurrence}
    {occurrence : Occurrence} (since : ActiveSince options earlier later)
    (steady : Steady ((fresh options).course (earlier ++ .asked .activate :: later))
      ((fresh options).course (earlier ++ .asked .activate :: (later ++ [occurrence])))) :
    ActiveSince options earlier (later ++ [occurrence]) := by
  refine ⟨since.inactive, fun middle isPrefix => ?_⟩
  rcases List.prefix_concat_iff.mp isPrefix with rfl | shorter
  · exact steady.label.trans (since.kept later List.prefix_rfl)
  · exact since.kept middle shorter

/-- A steady occurrence leaves the session standing as it stood. -/
theorem Standing.append {options : Options} {occurrences : List Occurrence}
    {occurrence : Occurrence} (standing : Standing options occurrences)
    (steady : Steady ((fresh options).course occurrences)
      ((fresh options).course (occurrences ++ [occurrence]))) :
    Standing options (occurrences ++ [occurrence]) := by
  cases standing with
  | down down => exact .down (steady.down down)
  | up ledger engine up earlier later split since records =>
    subst split
    obtain ⟨left, stillUp⟩ := steady.up up
    have longer : earlier ++ .asked .activate :: later ++ [occurrence] =
        earlier ++ .asked .activate :: (later ++ [occurrence]) := by
      rw [List.append_assoc, List.cons_append]
    refine .up left engine stillUp earlier (later ++ [occurrence]) longer ?_
      (steady.records records)
    rw [longer] at steady
    exact since.append steady

theorem isActive_of_up {session : Session} {ledger : Ledger} {engine : Engine}
    (up : session.Up ledger engine) : session.isActive = true := by
  rw [isActive, up.filed]
  rfl

theorem Standing.down_of_inactive {options : Options} {occurrences : List Occurrence}
    (standing : Standing options occurrences)
    (inactive : ((fresh options).course occurrences).isActive = false) :
    ((fresh options).course occurrences).Down := by
  cases standing with
  | down down => exact down
  | up ledger engine up =>
    exact absurd (inactive.symm.trans (isActive_of_up up)) Bool.false_ne_true

/-- A session that was connected just now is up, and the activation is the latest occurrence. -/
theorem Standing.of_connect {options : Options} {occurrences : List Occurrence}
    {collection : Collection} {editor : Editor} {subscriptions handed : List Subscription}
    (inactive : ((fresh options).course occurrences).isActive = false)
    (isNew : collection = ⟨((fresh options).course occurrences).editor.collections,
      ((fresh options).course occurrences).options.collectionName⟩)
    (step : (fresh options).course (occurrences ++ [.asked .activate]) =
      { connect collection ((fresh options).course occurrences) with
        editor := editor, subscriptions := subscriptions, handed := handed })
    (records : Records ((fresh options).course occurrences)
      ((fresh options).course (occurrences ++ [.asked .activate]))) :
    Standing options (occurrences ++ [.asked .activate]) := by
  have sameOptions := options_course options occurrences
  refine .up (Ledger.fresh ((fresh options).course occurrences).options.collectionName
    (some collection)) ⟨Rule.defaults ((fresh options).course occurrences).options.registry⟩ ?_
    occurrences [] rfl ⟨inactive, fun middle isPrefix => ?_⟩ records
  · rw [step]
    exact ⟨rfl, rfl, rfl, rfl, rfl⟩
  · rw [List.prefix_nil.mp isPrefix, step]
    show some (((fresh options).course occurrences).options.collectionName, some collection) = _
    rw [isNew, sameOptions]

theorem standing_activate {options : Options} {occurrences : List Occurrence}
    (standing : Standing options occurrences) :
    Standing options (occurrences ++ [.asked .activate]) := by
  have step := course_append_singleton (fresh options) occurrences (.asked .activate)
  rw [next_activate] at step
  have outcome := activated ((fresh options).course occurrences)
  unfold stateAfter at step
  generalize isResult : activate ((fresh options).course occurrences) = result at outcome step
  cases outcome with
  | already =>
    refine standing.append ?_
    rw [step]
    exact refl_of Steady _
  | refused inactive editor underwent =>
    refine standing.append ?_
    rw [step]
    exact steady_of_editor _ editor
  | halted inactive collection call calls made halted editor underwent isNew =>
    have down := standing.down_of_inactive inactive
    refine .of_connect inactive isNew step (Or.inl ?_)
    rw [step]
    exact down.subscriptions
  | complete inactive collection subscriptions isFrom editor underwent isNew =>
    refine .of_connect inactive isNew step (Or.inr ?_)
    rw [step]
    exact ⟨_, isResult, underwent.subscriptions, by rw [isFrom]; rfl⟩

theorem standing_deactivate {options : Options} {occurrences : List Occurrence}
    (standing : Standing options occurrences) :
    Standing options (occurrences ++ [.asked .deactivate]) := by
  have step := course_append_singleton (fresh options) occurrences (.asked .deactivate)
  rw [next_deactivate] at step
  have outcome := deactivated ((fresh options).course occurrences)
  unfold stateAfter at step
  generalize deactivate ((fresh options).course occurrences) = result at outcome step
  cases outcome with
  | halted ended failing rest split editor underwent =>
    refine standing.append ?_
    rw [step]
    exact steady_of_editor _ editor
  | bare inactive editor underwent =>
    refine .down ?_
    rw [step]
    exact ⟨rfl, rfl, rfl, rfl⟩
  | refused ledger active editor underwent fault desk answered =>
    refine standing.append ?_
    rw [step]
    refine ⟨rfl, rfl, rfl, ?_, Or.inr rfl⟩
    rw [active]
    exact answered.label_eq
  | complete ledger active editor underwent desk answered entry =>
    refine .down ?_
    rw [step]
    exact ⟨rfl, rfl, rfl, rfl⟩

/-- Whatever happens to a session, it stands down or up. -/
theorem standing_course (options : Options) (occurrences : List Occurrence) :
    Standing options occurrences := by
  -- The history grows at its end, so the induction takes the latest occurrence off.
  induction occurrences using List.reverseRecOn with
  | nil => exact .down ⟨rfl, rfl, rfl, rfl⟩
  | append_singleton occurrences occurrence inductionHypothesis =>
    by_cases isActivate : occurrence = .asked .activate
    · rw [isActivate]
      exact standing_activate inductionHypothesis
    by_cases isDeactivate : occurrence = .asked .deactivate
    · rw [isDeactivate]
      exact standing_deactivate inductionHypothesis
    refine inductionHypothesis.append ?_
    rw [course_append_singleton]
    exact steady_next _ occurrence isActivate isDeactivate

/-- Whatever happens to a session, and whatever calls are refused on the way, it is down or up. If
it is up, its engine files in the very ledger that it has; the ledger was opened by an activation of
the course and has been there ever since; and on record are no subscriptions or the three that this
activation was given. -/
theorem down_or_up (options : Options) (occurrences : List Occurrence) :
    ((fresh options).course occurrences).options = options ∧
    (((fresh options).course occurrences).Down ∨
      ∃ ledger engine, ((fresh options).course occurrences).Up ledger engine ∧
        engine.FilesIn ledger ((fresh options).course occurrences).toDesk ∧
        ∃ earlier later, occurrences = earlier ++ .asked .activate :: later ∧
          ActiveSince options earlier later ∧
          Records ((fresh options).course earlier) ((fresh options).course occurrences)) := by
  refine ⟨options_course options occurrences, ?_⟩
  cases standing_course options occurrences with
  | down down => exact Or.inl down
  | up ledger engine up earlier later split since records =>
    exact Or.inr ⟨ledger, engine, up, Engine.filesIn_of_defaults up.rules up.filed, earlier, later,
      split, since, records⟩

end Session

end IgniterLint
