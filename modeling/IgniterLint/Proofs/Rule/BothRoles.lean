/-
This file compares the run over a document that plays both parts with the runs over documents that
play one of them. A rule that looks for one part says the same in a run for both parts and in a run
for its own. Diagnostics are signed by the ids of their rules, and in a sound table no two rules
share an id. So what the rules of each part contributed to a run can be picked out of it by the
signatures, however the rules of the two parts alternate in the table.
-/

import IgniterLint.Proofs.Rule.CallReports
import IgniterLint.Rule.Table
import Mathlib.Data.List.Nodup

namespace IgniterLint

/-- Both parts at once. -/
def Roles.both : Roles := ⟨true, true⟩

namespace Rule

/-! ### Telling rules by their signatures -/

/-- Whether the diagnostic is signed by a rule of the table that applies to this part alone. -/
def signedFor (rules : List Rule) (part : Roles) (diagnostic : Diagnostic) : Bool :=
  rules.any fun rule => rule.appliesTo part && rule.id = diagnostic.ruleId

/-- The place in the table of the rule that signed the diagnostic. -/
def placeOf (rules : List Rule) (diagnostic : Diagnostic) : Nat :=
  (rules.map (·.id)).idxOf diagnostic.ruleId

variable {text : Text} {rules : List Rule}

theorem nodup_id_of_validate (sound : validate rules = .ok ()) : (rules.map (·.id)).Nodup :=
  List.pairwise_map.mpr ((validate_eq_ok_iff rules).mp sound).2

/-- In a sound table, a diagnostic is signed for the parts that its own rule applies to. -/
theorem signedFor_of_mem_report (sound : validate rules = .ok ()) {rule : Rule}
    (stands : rule ∈ rules) (part : Roles) {diagnostic : Diagnostic}
    (reported : diagnostic ∈ rule.report text) :
    signedFor rules part diagnostic = rule.appliesTo part := by
  rw [signedFor, ruleId_of_mem_report reported, Bool.eq_iff_iff, List.any_eq_true]
  constructor
  · rintro ⟨other, otherStands, signed⟩
    obtain ⟨applies, sameId⟩ := Bool.and_eq_true_iff.mp signed
    rwa [← List.inj_on_of_nodup_map (nodup_id_of_validate sound) otherStands stands
      (of_decide_eq_true sameId)]
  · exact fun applies => ⟨rule, stands, Bool.and_eq_true_iff.mpr ⟨applies, decide_eq_true rfl⟩⟩

theorem placeOf_of_mem_report (sound : validate rules = .ok ()) {index : Nat}
    (inTable : index < rules.length) {diagnostic : Diagnostic}
    (reported : diagnostic ∈ (rules[index]).report text) : placeOf rules diagnostic = index := by
  have place := (nodup_id_of_validate sound).idxOf_getElem index (by rwa [List.length_map])
  rwa [List.getElem_map, ← ruleId_of_mem_report reported] at place

/-! ### Runs for one part and for both -/

theorem flatMap_filter_report (wanted : Rule → Bool) (rules : List Rule) :
    (rules.filter wanted).flatMap (·.report text) =
      rules.flatMap fun rule => if wanted rule then rule.report text else [] := by
  induction rules with
  | nil => rfl
  | cons rule rest inductionHypothesis =>
    rw [List.flatMap_cons, ← inductionHypothesis]
    cases isWanted : wanted rule with
    | true => rw [List.filter_cons_of_pos isWanted, List.flatMap_cons, if_pos rfl]
    | false => rw [List.filter_cons_of_neg (by simp [isWanted]), if_neg Bool.false_ne_true]; rfl

/-- The rule applies to the documents that play the part, whatever else they play. -/
def LooksFor (rule : Rule) (part : Roles) : Prop :=
  ∀ roles, rule.appliesTo roles = roles.includes part

/-- The rule looks for one of the two parts. -/
def LooksForOne (rule : Rule) : Prop := rule.LooksFor .controllerOnly ∨ rule.LooksFor .modelOnly

theorem LooksForOne.appliesTo_both {rule : Rule} (looks : rule.LooksForOne) :
    rule.appliesTo .both = true := by
  rcases looks with looksFor | looksFor <;> rw [looksFor] <;> rfl

theorem reportAll_both (looks : ∀ rule ∈ rules, rule.LooksForOne) :
    reportAll text .both rules = rules.flatMap (·.report text) := by
  have all : rules.filter (·.appliesTo .both) = rules :=
    List.filter_eq_self.mpr fun rule stands => (looks rule stands).appliesTo_both
  rw [reportAll, all]
  rfl

theorem reportAll_part {part : Roles} (isAny : part.isAny = true) :
    reportAll text part rules =
      rules.flatMap fun rule => if rule.appliesTo part then rule.report text else [] := by
  rw [reportAll, if_pos isAny, flatMap_filter_report]

/-- Of the diagnostics of a run for both parts, those signed for one part are the run for it. -/
theorem filter_signedFor_reportAll_both (sound : validate rules = .ok ())
    (looks : ∀ rule ∈ rules, rule.LooksForOne) {part : Roles} (isAny : part.isAny = true) :
    (reportAll text .both rules).filter (signedFor rules part) = reportAll text part rules := by
  rw [reportAll_both looks, reportAll_part isAny, List.filter_flatMap]
  refine List.flatMap_congr fun rule stands => ?_
  have signed : ∀ diagnostic ∈ rule.report text,
      signedFor rules part diagnostic = rule.appliesTo part :=
    fun diagnostic reported => signedFor_of_mem_report sound stands part reported
  rw [List.filter_congr signed]
  split
  · next applies => simp [applies]
  · next other => simp [other]

theorem pairwise_placeOf_reportAll_both (sound : validate rules = .ok ())
    (looks : ∀ rule ∈ rules, rule.LooksForOne) :
    (reportAll text .both rules).Pairwise fun earlier later =>
      placeOf rules earlier ≤ placeOf rules later := by
  rw [reportAll_both looks, List.pairwise_flatMap]
  constructor
  · intro rule stands
    obtain ⟨index, inTable, rfl⟩ := List.getElem_of_mem stands
    refine List.Pairwise.imp_of_mem ?_ (List.pairwise_of_forall fun _ _ => trivial)
    intro earlier later earlierReported laterReported _
    rw [placeOf_of_mem_report sound inTable earlierReported,
      placeOf_of_mem_report sound inTable laterReported]
  · refine List.pairwise_iff_getElem.mpr fun first second firstIn secondIn before => ?_
    intro earlier earlierReported later laterReported
    rw [placeOf_of_mem_report sound firstIn earlierReported,
      placeOf_of_mem_report sound secondIn laterReported]
    exact Nat.le_of_lt before

/-- What a rule signs in a run for both parts are its findings, in the order of its check. -/
theorem filter_ruleId_reportAll_both (sound : validate rules = .ok ())
    (looks : ∀ rule ∈ rules, rule.LooksForOne) {rule : Rule} (stands : rule ∈ rules)
    {findings : List Finding} (finds : rule.Finds text findings) :
    ((reportAll text .both rules).filter (·.ruleId = rule.id)).map .ok =
      findings.map (Finding.toDiagnostic rule.id text) := by
  have own : reportAll text .both [rule] = rule.report text := by
    have looksAlone : ∀ single ∈ [rule], single.LooksForOne := by
      intro single member
      rw [List.mem_singleton.mp member]
      exact looks rule stands
    rw [reportAll_both looksAlone, List.flatMap_singleton]
  rw [filter_reportAll ((validate_eq_ok_iff rules).mp sound).2 stands, own, report,
    finds.findings_eq, List.map_map]
  refine List.map_congr_left fun finding member => ?_
  exact (finding.toDiagnostic_eq rule.id text (finds.inside finding member)).symm

/-! ### The rules that stand by default -/

theorem reportAll_both_defaults (registry : Registry) (text : Text) :
    reportAll text .both (defaults registry) =
      reportAll text .controllerOnly (defaults registry) ++
        reportAll text .modelOnly (defaults registry) := by
  show (defaults registry).flatMap (·.report text) =
    ((defaults registry).take 2).flatMap (·.report text) ++
      ((defaults registry).drop 2).flatMap (·.report text)
  rw [← List.flatMap_append, List.take_append_drop]

/-! ### All together -/

/-- How the run of a table for both parts compares with its runs for one of them. -/
structure RunsForBoth (text : Text) (rules : List Rule)
    (both controllers models : List Diagnostic) : Prop where
  ran : runAll text .both rules = .ok both
  ranControllers : runAll text .controllerOnly rules = .ok controllers
  ranModels : runAll text .modelOnly rules = .ok models
  /-- what the rules for controllers signed is the run for controllers -/
  ofControllers : both.filter (signedFor rules .controllerOnly) = controllers
  /-- what the rules for models signed is the run for models -/
  ofModels : both.filter (signedFor rules .modelOnly) = models
  /-- the rules report in the order of the table -/
  inTableOrder : both.Pairwise fun earlier later => placeOf rules earlier ≤ placeOf rules later
  /-- and each of them in the order of its findings -/
  inFindingOrder : ∀ rule ∈ rules, ∀ findings, rule.check text = .ok findings →
    (both.filter (·.ruleId = rule.id)).map .ok = findings.map (Finding.toDiagnostic rule.id text)

/-- In a run of a sound table for both parts, the rules of each part say what they say in a run for
that part alone, as long as each rule looks for one part and none fails on the text. With the rules
that stand by default, the run for controllers comes first and the run for models follows, whoever
answers for the models. -/
theorem runAll_both_runs_each (text : Text) :
    (∀ rules, validate rules = .ok () →
      (∀ rule ∈ rules, rule.LooksFor .controllerOnly ∨ rule.LooksFor .modelOnly) →
      (∀ rule ∈ rules, rule.SoundOn text) →
      ∃ both controllers models, RunsForBoth text rules both controllers models) ∧
    ∀ registry, ∃ controllers models,
      runAll text .controllerOnly (defaults registry) = .ok controllers ∧
      runAll text .modelOnly (defaults registry) = .ok models ∧
      runAll text .both (defaults registry) = .ok (controllers ++ models) := by
  refine ⟨fun rules sound looks finds => ?_, fun registry => ?_⟩
  · refine ⟨_, _, _, runAll_eq text .both rules finds, runAll_eq text .controllerOnly rules finds,
      runAll_eq text .modelOnly rules finds, ?_, ?_, ?_, ?_⟩
    · exact filter_signedFor_reportAll_both sound looks rfl
    · exact filter_signedFor_reportAll_both sound looks rfl
    · exact pairwise_placeOf_reportAll_both sound looks
    · intro rule stands findings returned
      obtain ⟨found, foundHere⟩ := finds rule stands
      obtain rfl : found = findings := Except.ok.inj (foundHere.returned.symm.trans returned)
      exact filter_ruleId_reportAll_both sound looks stands foundHere
  · have finds := soundOn_defaults registry text
    refine ⟨_, _, runAll_eq text .controllerOnly _ finds, runAll_eq text .modelOnly _ finds, ?_⟩
    rw [runAll_eq text .both _ finds, reportAll_both_defaults]

/-- A rule for models between two rules for controllers. -/
def alternating : List Rule :=
  [inheritance "base" "first" .controllerOnly controllerBase .controllerMissingBaseClass,
    directQueries "second" .modelOnly .directQuery,
    inheritance "base" "third" .controllerOnly modelBase .modelMissingBaseClass]

/-- A class that extends nothing and runs two queries. -/
def queries : Text := "class A $this->db->query('a') $this->db->query('b')".toList

theorem runAll_both_runs_each_alternating :
    validate alternating = .ok () ∧ ∃ both controllers models,
      RunsForBoth queries alternating both controllers models ∧
      both.map (·.ruleId) = ["first", "second", "second", "third"] ∧
      controllers.map (·.ruleId) = ["first", "third"] ∧
      models.map (·.ruleId) = ["second", "second"] := by
  have sound : validate alternating = .ok () := by rfl
  have finds : ∀ rule ∈ alternating, rule.SoundOn queries := by
    simp only [alternating, List.forall_mem_cons, List.not_mem_nil]
    exact ⟨⟨_, rfl, by decide +kernel⟩, ⟨_, rfl, by decide +kernel⟩, ⟨_, rfl, by decide +kernel⟩,
      nofun⟩
  have looks : ∀ rule ∈ alternating, rule.LooksFor .controllerOnly ∨ rule.LooksFor .modelOnly := by
    simp only [alternating, List.forall_mem_cons, List.not_mem_nil]
    exact ⟨Or.inl fun _ => rfl, Or.inr fun _ => rfl, Or.inl fun _ => rfl, nofun⟩
  obtain ⟨both, controllers, models, runs⟩ :=
    (runAll_both_runs_each queries).1 alternating sound looks finds
  have signed : ((runAll queries .both alternating).map fun reported => reported.map (·.ruleId)) =
      .ok ["first", "second", "second", "third"] := by decide +kernel
  have signedByControllers : ((runAll queries .controllerOnly alternating).map fun reported =>
      reported.map (·.ruleId)) = .ok ["first", "third"] := by decide +kernel
  have signedByModels : ((runAll queries .modelOnly alternating).map fun reported =>
      reported.map (·.ruleId)) = .ok ["second", "second"] := by decide +kernel
  rw [runs.ran] at signed
  rw [runs.ranControllers] at signedByControllers
  rw [runs.ranModels] at signedByModels
  exact ⟨sound, both, controllers, models, runs, Except.ok.inj signed,
    Except.ok.inj signedByControllers, Except.ok.inj signedByModels⟩

end Rule

end IgniterLint
