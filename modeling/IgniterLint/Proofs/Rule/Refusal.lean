/-
This file says which tables of rules are refused, what for, and how early. The ids that the check
of a table has seen at a rule are those of the rules before it, so the check stops at the first rule
that has no id or the id of an earlier one, and its fault names that rule. Everything that takes a
table checks it first: the refusal depends on the labels and ids of the rules alone, and comes
whatever the rules would find, whatever the file system would answer, and with the desk untouched.
-/

import IgniterLint.Diagnostic.Draft
import IgniterLint.Engine
import IgniterLint.File.System
import IgniterLint.Proofs.Except
import Mathlib.Data.Nat.Find

namespace IgniterLint

namespace Rule

/-- What is wrong with a rule that stands behind rules with the ids taken. -/
inductive Offence (taken : List String) (rule : Rule) : Fault → Prop
  | nameless (empty : rule.id = "") : Offence taken rule (.emptyRuleId rule.label)
  | repeated (again : rule.id ∈ taken) : Offence taken rule (.duplicateRuleId rule.id)

theorem Offence.nameless_or_repeated {taken : List String} {rule : Rule} {fault : Fault}
    (offence : Offence taken rule fault) : rule.id = "" ∨ rule.id ∈ taken := by
  cases offence with
  | nameless empty => exact Or.inl empty
  | repeated again => exact Or.inr again

/-- The ids of the rules before an index. -/
def idsBefore (rules : List Rule) (index : Nat) : List String := (rules.take index).map (·.id)

/-- No rule before the index offends. -/
def SoundBefore (rules : List Rule) (index : Nat) : Prop :=
  ∀ earlier < index, ∀ other, rules[earlier]? = some other →
    ∀ cause, ¬ Offence (idsBefore rules earlier) other cause

/-- The rule at the index offends, and it is the first that does. -/
structure FirstOffence (rules : List Rule) (index : Nat) (rule : Rule) (fault : Fault) : Prop where
  stands : rules[index]? = some rule
  offends : Offence (idsBefore rules index) rule fault
  earliest : SoundBefore rules index

variable {rules : List Rule} {index : Nat} {rule : Rule} {fault : Fault}

/-! ### The check of a table -/

/-- Behind some rules of a table, the ids seen are theirs and those seen before them. -/
theorem validateAfter_append (seen : List String) (earlier later : List Rule) :
    validateAfter seen (earlier ++ later) =
      validateAfter seen earlier >>= fun _ =>
        validateAfter ((earlier.map (·.id)).reverse ++ seen) later := by
  induction earlier generalizing seen with
  | nil => rfl
  | cons rule rest inductionHypothesis =>
    rw [List.cons_append, validateAfter, validateAfter]
    split
    · rfl
    · split
      · rfl
      · rw [inductionHypothesis, List.map_cons, List.reverse_cons, List.append_assoc,
          List.singleton_append]

theorem mem_idsBefore_iff {id : String} :
    id ∈ idsBefore rules index ↔
      ∃ earlier < index, ∃ other, rules[earlier]? = some other ∧ other.id = id := by
  rw [idsBefore, List.mem_map]
  constructor
  · rintro ⟨other, member, same⟩
    obtain ⟨earlier, found⟩ := List.mem_iff_getElem?.mp member
    rw [List.getElem?_take] at found
    split at found
    · next before => exact ⟨earlier, before, other, found, same⟩
    · cases found
  · rintro ⟨earlier, before, other, found, same⟩
    refine ⟨other, List.mem_iff_getElem?.mpr ⟨earlier, ?_⟩, same⟩
    rw [List.getElem?_take_of_lt before, found]

/-- A table is sound exactly if none of its rules offends. -/
theorem validate_eq_ok_iff_soundBefore :
    validate rules = .ok () ↔ SoundBefore rules rules.length := by
  rw [validate_eq_ok_iff, List.pairwise_iff_getElem]
  constructor
  · rintro ⟨named, distinct⟩ index _ rule stands fault offence
    cases offence with
    | nameless empty => exact named rule (List.mem_of_getElem? stands) empty
    | repeated again =>
      obtain ⟨earlier, before, other, found, same⟩ := mem_idsBefore_iff.mp again
      obtain ⟨bound, rfl⟩ := List.getElem?_eq_some_iff.mp stands
      obtain ⟨earlierBound, rfl⟩ := List.getElem?_eq_some_iff.mp found
      exact distinct earlier index earlierBound bound before same
  · intro sound
    refine ⟨fun rule member empty => ?_, fun first second firstBound secondBound before same => ?_⟩
    · obtain ⟨index, bound, stands⟩ := List.mem_iff_getElem.mp member
      exact sound index bound rule (List.getElem?_eq_some_iff.mpr ⟨bound, stands⟩) _
        (.nameless empty)
    · refine sound second secondBound rules[second] (List.getElem?_eq_getElem secondBound) _
        (.repeated (mem_idsBefore_iff.mpr ?_))
      exact ⟨first, before, rules[first], List.getElem?_eq_getElem firstBound, same⟩

/-- The rules before the first offence make a sound table. -/
theorem SoundBefore.validate_take (earliest : SoundBefore rules index) :
    validate (rules.take index) = .ok () := by
  rw [validate_eq_ok_iff_soundBefore]
  intro earlier bound other found cause
  have before : earlier < index := Nat.lt_of_lt_of_le bound (List.length_take_le index rules)
  have sameIds : idsBefore (rules.take index) earlier = idsBefore rules earlier := by
    rw [idsBefore, idsBefore, List.take_take, Nat.min_eq_left (Nat.le_of_lt before)]
  rw [sameIds]
  rw [List.getElem?_take_of_lt before] at found
  exact earliest earlier before other found cause

/-! ### The first offence -/

namespace FirstOffence

/-- The first offender without an id is not taken for a repetition: an earlier rule with the same
id, that is with none, would have offended before it. -/
theorem fault_eq (first : FirstOffence rules index rule fault) :
    fault = if rule.id = "" then .emptyRuleId rule.label else .duplicateRuleId rule.id := by
  obtain ⟨-, offends, earliest⟩ := first
  cases offends with
  | nameless empty => rw [if_pos empty]
  | repeated again =>
    obtain ⟨earlier, before, other, found, same⟩ := mem_idsBefore_iff.mp again
    rw [if_neg fun empty => earliest earlier before other found _ (.nameless (same.trans empty))]

/-- A table is refused for its first offence. -/
theorem validate_eq (first : FirstOffence rules index rule fault) :
    validate rules = .error fault := by
  have parted : rules = rules.take index ++ rule :: rules.drop (index + 1) := by
    obtain ⟨bound, rfl⟩ := List.getElem?_eq_some_iff.mp first.stands
    rw [List.getElem_cons_drop, List.take_append_drop]
  -- The check reaches the offender, and by then it has seen exactly the ids before it.
  have soundSoFar := first.earliest.validate_take
  rw [validate] at soundSoFar
  rw [parted, validate, validateAfter_append, soundSoFar, ok_bind, List.append_nil, validateAfter,
    first.fault_eq]
  split
  · rfl
  · next named =>
    exact if_pos (List.mem_reverse.mpr (first.offends.nameless_or_repeated.resolve_left named))

end FirstOffence

theorem exists_firstOffence (unsound : validate rules ≠ .ok ()) :
    ∃ index rule fault, FirstOffence rules index rule fault := by
  classical
  have offended : ∃ index rule fault, rules[index]? = some rule ∧
      Offence (idsBefore rules index) rule fault := by
    by_contra none
    refine unsound (validate_eq_ok_iff_soundBefore.mpr ?_)
    exact fun index _ rule stands fault offends => none ⟨index, rule, fault, stands, offends⟩
  obtain ⟨rule, fault, stands, offends⟩ := Nat.find_spec offended
  refine ⟨Nat.find offended, rule, fault, stands, offends, ?_⟩
  exact fun earlier before other found cause offends =>
    Nat.find_min offended before ⟨other, cause, found, offends⟩

theorem validate_eq_error_iff :
    validate rules = .error fault ↔ ∃ index rule, FirstOffence rules index rule fault := by
  constructor
  · intro refused
    have unsound : validate rules ≠ .ok () := by
      rw [refused]
      nofun
    obtain ⟨index, rule, cause, first⟩ := exists_firstOffence unsound
    obtain rfl : cause = fault := Except.error.inj (first.validate_eq.symm.trans refused)
    exact ⟨index, rule, first⟩
  · rintro ⟨index, rule, first⟩
    exact first.validate_eq

/-! ### What takes a table -/

/-- What a table is refused by: the label and the id of a rule. -/
def signature (rule : Rule) : String × String := (rule.label, rule.id)

theorem validateAfter_of_signature (seen : List String) {others rules : List Rule}
    (same : others.map signature = rules.map signature) :
    validateAfter seen others = validateAfter seen rules := by
  induction rules generalizing others seen with
  | nil =>
    obtain rfl : others = [] := List.map_eq_nil_iff.mp same
    rfl
  | cons rule rest inductionHypothesis =>
    obtain ⟨other, later, rfl, sameFirst, sameRest⟩ := List.map_eq_cons_iff.mp same
    obtain ⟨sameLabel, sameId⟩ := Prod.mk.inj sameFirst
    rw [validateAfter, validateAfter, sameLabel, sameId, inductionHypothesis _ sameRest]

theorem resolve_of_refused (refused : validate rules = .error fault) :
    resolve (some rules) none = .error fault := by
  change (validate rules >>= fun _ => pure rules) = _
  rw [refused]
  rfl

/-- Nothing takes the table: no engine is set up over it, and the desk stays as it is; no text, no
document and no files are checked by it, whatever they are and whatever the file system answers. -/
structure Refused (rules : List Rule) (fault : Fault) : Prop where
  engine : Engine.ofRules (some rules) = .error fault
  desk : ∀ desk, Engine.setUp (some rules) desk = .error (.check fault) desk
  text : ∀ text path, Analysis.ofText text path (some rules) none = .error fault
  document : ∀ document, Analysis.ofDocument document (some rules) none = .error fault
  files : ∀ (system : FileSystem) (paths : List Text),
    system.analyze paths (some rules) none = .error (.check fault)

theorem refused_of_validate (refused : validate rules = .error fault) : Refused rules fault := by
  have noEngine : Engine.ofRules (some rules) = .error fault := by
    change (validate rules >>= fun _ => pure _) = _
    rw [refused]
    rfl
  have noDocument : ∀ document, Analysis.ofDocument document (some rules) none = .error fault := by
    intro document
    rw [Analysis.ofDocument, resolve_of_refused refused]
    rfl
  refine ⟨noEngine, fun desk => ?_, fun text path => noDocument _, noDocument,
    fun system paths => ?_⟩
  · rw [Engine.setUp, noEngine]
    rfl
  · rw [FileSystem.analyze, resolve_of_refused refused]
    rfl

/-- A table is sound exactly if every rule has an id and no two share one. Any other is refused for
its first rule that has no id, and then the fault names the label of the rule, or that has the id of
an earlier one, and then it names the id. Everything that takes a table refuses it with this fault,
and with it every table of the same labels and ids. So the refusal comes before any rule is asked
for its findings and before any question is put to the file system: it is the same where each of
them would fail. -/
theorem refused_for_first_offence (rules : List Rule) :
    (validate rules = .ok () ↔
      (∀ rule ∈ rules, rule.id ≠ "") ∧
        rules.Pairwise fun first second => first.id ≠ second.id) ∧
    (∀ fault, validate rules = .error fault ↔
      ∃ index rule, FirstOffence rules index rule fault) ∧
    ∀ index rule fault, FirstOffence rules index rule fault →
      fault.message =
        (if rule.id = "" then
          "Rule `".toList ++ rule.label.toList ++ "` has an empty rule id.".toList
        else "Rule id `".toList ++ rule.id.toList ++ "` is registered more than once.".toList) ∧
      ∀ others : List Rule, others.map signature = rules.map signature → Refused others fault := by
  refine ⟨validate_eq_ok_iff rules, fun fault => validate_eq_error_iff,
    fun index rule fault first => ⟨?_, fun others same => ?_⟩⟩
  · rw [first.fault_eq]
    split <;> rfl
  · refine refused_of_validate ?_
    rw [validate, validateAfter_of_signature [] same]
    exact first.validate_eq

/-- A rule that fails on every text: its one finding has a grade that there is not. -/
def failing (id : String) : Rule :=
  .fixed id .controllerOnly [⟨0, 0, [], "loud".toList, none⟩]

/-- A table whose third rule has the id of the first, and whose fourth has none. -/
def clashing : List Rule := [failing "a", failing "b", failing "a", failing ""]

theorem refused_for_first_offence_clashing :
    FirstOffence clashing 2 (failing "a") (.duplicateRuleId "a") ∧
      (failing "a").check [] = .error (.severity ⟨"loud".toList⟩) ∧
      Refused clashing (.duplicateRuleId "a") := by
  have soundSoFar : SoundBefore clashing 2 := by
    intro earlier before other found cause offends
    match earlier, before, found with
    | 0, _, rfl => exact absurd offends.nameless_or_repeated (by decide)
    | 1, _, rfl => exact absurd offends.nameless_or_repeated (by decide)
  have first : FirstOffence clashing 2 (failing "a") (.duplicateRuleId "a") :=
    ⟨rfl, .repeated (by decide), soundSoFar⟩
  have refuses := (refused_for_first_offence clashing).2.2 2 _ _ first
  exact ⟨first, rfl, refuses.2 clashing rfl⟩

end Rule

end IgniterLint
