/-
This file says what checking a document does to the ledger on the desk. The rules are run before
anything is filed, so a run that fails leaves the desk as it was, with nothing published. A run that
returns is filed as a whole: one entry changes, and the publisher is told of it in one call, whose
refusal does not undo the entry.
-/

import IgniterLint.Diagnostic.Draft
import IgniterLint.Engine
import IgniterLint.Proofs.Ledger.Answer
import IgniterLint.Proofs.Rule.Failure

namespace IgniterLint

namespace Engine

variable {engine : Engine} {document : Document}

theorem analyze_of_error {fault : Fault} (failed : engine.diagnose document = .error fault)
    (desk : Desk) : engine.analyze document desk = .error (.check fault) desk := by
  unfold analyze
  rw [failed]
  rfl

theorem analyze_of_ok {diagnostics : List Diagnostic}
    (diagnosed : engine.diagnose document = .ok diagnostics) (ledger : Ledger) (editor : Editor) :
    engine.analyze document ⟨some ledger, editor⟩ =
      (Desk.replace document.identity diagnostics >>= fun _ => pure diagnostics)
        ⟨some ledger, editor⟩ := by
  unfold analyze
  rw [diagnosed]
  rfl

/-- The diagnostics stand under the identity, all else in the ledger is as it was, and the only call
made is that on the publisher, if there is one. -/
structure FiledOnce (before : Ledger) (editor : Editor) (identity : Text)
    (diagnostics : List Diagnostic) (returned : Bool) (left : Ledger) (after : Editor) : Prop where
  entry : left.entries.lookup identity = some diagnostics
  others : left.erase identity = before.erase identity
  told : after.calls = editor.calls ++ before.publisher.toList.map fun collection =>
    ⟨.publish collection identity diagnostics, returned⟩

theorem filedOnce_of_told {ledger : Ledger} {editor after : Editor} {identity : Text}
    {diagnostics : List Diagnostic} {returned : Bool}
    (told : Desk.Told ledger (.publish · identity diagnostics) editor after returned) :
    FiledOnce ledger editor identity diagnostics returned (ledger.insert identity diagnostics)
      after :=
  ⟨Ledger.lookup_put_self identity diagnostics ledger.entries,
    ledger.erase_insert_self identity diagnostics, told.underwent.calls⟩

theorem analyze_of_open {diagnostics : List Diagnostic}
    (diagnosed : engine.diagnose document = .ok diagnostics) {ledger : Ledger}
    (isOpen : ledger.disposed = false) (editor : Editor) :
    ∃ returned left after,
      FiledOnce ledger editor document.identity diagnostics returned left after ∧
      (returned = true →
        engine.analyze document ⟨some ledger, editor⟩ = .ok diagnostics ⟨some left, after⟩) ∧
      (returned = false → ∃ fault,
        engine.analyze document ⟨some ledger, editor⟩ = .error fault ⟨some left, after⟩) := by
  have filing := Desk.replace_of_open editor isOpen document.identity diagnostics
  rcases Desk.tellPublisher_cases ledger (.publish · document.identity diagnostics)
      ⟨some (ledger.insert document.identity diagnostics),
        editor.note (.stored diagnostics.length document.identity ledger.name)⟩ with
    ⟨after, returned, told⟩ | ⟨fault, after, failed, told⟩
  · refine ⟨true, _, after, filedOnce_of_told told.of_note, fun _ => ?_, nofun⟩
    exact (analyze_of_ok diagnosed ledger editor).trans (bind_of_ok (filing.trans returned))
  · refine ⟨false, _, after, filedOnce_of_told told.of_note, nofun, fun _ => ⟨fault, ?_⟩⟩
    exact (analyze_of_ok diagnosed ledger editor).trans (bind_of_error (filing.trans failed))

/-- Whatever the rules, the document and the ledger, a run of the rules that fails ends the check
with the fault of the first rule that applies and fails, and leaves the desk as it was. A run that
returns is filed whole in an open ledger, next to what else is there, and published in one call. A
rule about loaded models fails only on a load that is not answered for, and not at all on a text
whose loads are all answered for. -/
theorem analyze_leaves_or_files (engine : Engine) (document : Document) (ledger : Ledger)
    (editor : Editor) :
    (∀ fault, engine.diagnose document = .error fault →
      engine.analyze document ⟨some ledger, editor⟩ =
        .error (.check fault) ⟨some ledger, editor⟩ ∧
      ∃ earlier rule later,
        engine.rulesFor (Roles.ofPath document.identity) = earlier ++ rule :: later ∧
        (∀ other ∈ earlier, other.SoundOn document.text) ∧ rule.FailsOn document.text fault) ∧
    (∀ diagnostics, engine.diagnose document = .ok diagnostics → ledger.disposed = false →
      diagnostics = Rule.reportAll document.text (Roles.ofPath document.identity) engine.rules ∧
      ∃ returned left after,
        FiledOnce ledger editor document.identity diagnostics returned left after ∧
        (returned = true →
          engine.analyze document ⟨some ledger, editor⟩ = .ok diagnostics ⟨some left, after⟩) ∧
        (returned = false → ∃ fault,
          engine.analyze document ⟨some ledger, editor⟩ = .error fault ⟨some left, after⟩)) ∧
    ∀ (rule : Rule) (memory : Nat) (lookup : Text → Lookup) (spec : Spec),
      rule.check = Rule.checkModelLoads memory lookup spec →
      (∀ fault, rule.FailsOn document.text fault →
        ∃ call ∈ QuotedCall.findAll QuotedCall.modelLoad document.text,
          (lookup call.argument).exists = false ∧
            ∃ cause, Template.fill memory call.argument spec.message = .error cause ∧
              fault = .template cause) ∧
      ((∀ call ∈ QuotedCall.findAll QuotedCall.modelLoad document.text,
          (lookup call.argument).exists = true) → rule.diagnose document.text = .ok []) := by
  refine ⟨fun fault failed => ⟨analyze_of_error failed _, ?_⟩,
    fun diagnostics diagnosed isOpen =>
      ⟨Rule.eq_reportAll_of_runAll diagnosed, analyze_of_open diagnosed isOpen editor⟩,
    fun rule memory lookup spec checks =>
      ⟨fun fault => Rule.exists_load_of_failsOn checks, Rule.diagnose_of_confirmed checks⟩⟩
  exact (Rule.runAll_eq_error_iff.mp failed).2

/-- A table whose first rule finds something and whose second rule reaches beyond every short
text. -/
def overreaching : Engine where
  rules := [.controllerInheritance,
    .fixed "overreaching" .controllerOnly [⟨0, 99, [], "warning".toList, none⟩]]

/-- A ledger in which something is filed under the path of a controller. -/
def filedBefore : Ledger :=
  (Ledger.fresh "ledger" (some ⟨0, "shown"⟩)).insert "controllers/A.php".toList []

theorem analyze_leaves_or_files_overreaching :
    overreaching.diagnose ⟨"controllers/A.php".toList, "class A".toList, "php"⟩ =
      .error (.position (.outside 99 7)) ∧
    overreaching.analyze ⟨"controllers/A.php".toList, "class A".toList, "php"⟩
        ⟨some filedBefore, .fresh⟩ =
      .error (.check (.position (.outside 99 7))) ⟨some filedBefore, .fresh⟩ := by
  have failed : overreaching.diagnose ⟨"controllers/A.php".toList, "class A".toList, "php"⟩ =
      .error (.position (.outside 99 7)) := by decide +kernel
  exact ⟨failed, ((analyze_leaves_or_files _ _ filedBefore .fresh).1 _ failed).1⟩

end Engine

end IgniterLint
