/-
This file says which rules may stand together. Diagnostics are signed by rule ids, so in a table
every rule has an id and no two share one. A table that breaks this is refused for its first
offender.
-/

import IgniterLint.Rule

namespace IgniterLint.Rule

/-- Checks the remaining rules of a table against the ids seen before them. -/
def validateAfter (seen : List String) : List Rule → Except Fault Unit
  | [] => .ok ()
  | rule :: rest =>
    if rule.id = "" then .error (.emptyRuleId rule.label)
    else if rule.id ∈ seen then .error (.duplicateRuleId rule.id)
    else validateAfter (rule.id :: seen) rest

/-- Checks a table of rules. -/
def validate (rules : List Rule) : Except Fault Unit := validateAfter [] rules

theorem validateAfter_eq_ok_iff (seen : List String) (rules : List Rule) :
    validateAfter seen rules = .ok () ↔
      (∀ rule ∈ rules, rule.id ≠ "" ∧ rule.id ∉ seen) ∧
        rules.Pairwise fun first second => first.id ≠ second.id := by
  induction rules generalizing seen with
  | nil => simp [validateAfter]
  | cons rule rest inductionHypothesis =>
    rw [validateAfter, List.forall_mem_cons, List.pairwise_cons]
    split
    · next nameless => simp [nameless]
    · next named =>
      split
      · next known => simp [known]
      · next new =>
        -- A later rule is new after this one if its id is new, and not the id of this one.
        rw [inductionHypothesis]
        constructor
        · rintro ⟨each, distinct⟩
          simp only [List.mem_cons, not_or] at each
          refine ⟨⟨⟨named, new⟩, fun other member => ?_⟩, fun other member => ?_, distinct⟩
          · exact ⟨(each other member).1, (each other member).2.2⟩
          · exact Ne.symm (each other member).2.1
        · rintro ⟨⟨_, each⟩, apart, distinct⟩
          refine ⟨fun other member => ⟨(each other member).1, ?_⟩, distinct⟩
          rw [List.mem_cons, not_or]
          exact ⟨Ne.symm (apart other member), (each other member).2⟩

/-- A table is sound exactly if every rule has an id and no two share one. -/
theorem validate_eq_ok_iff (rules : List Rule) :
    validate rules = .ok () ↔
      (∀ rule ∈ rules, rule.id ≠ "") ∧
        rules.Pairwise fun first second => first.id ≠ second.id := by
  rw [validate, validateAfter_eq_ok_iff]
  simp

/-- The rules of a check: those given, or those that stand by default over the registry given. Both
cannot be given, and the table has to be sound. -/
def resolve (rules : Option (List Rule)) (registry : Option Registry) :
    Except Fault (List Rule) := do
  let resolved ← match rules, registry with
    | some _, some _ => throw .rulesAndRegistry
    | some rules, none => pure rules
    | none, registry => pure (defaults (registry.getD .unaware))
  validate resolved
  return resolved

end IgniterLint.Rule
