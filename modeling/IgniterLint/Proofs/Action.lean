/-
This file follows the state through an action. An action returns or fails, and either way it leaves
a state behind. It leads along a relation when that state is always related to the one it started
from. Along a preorder, actions that lead can be put together in every way that the operations of a
session use, so a fact about a composed operation comes from the same fact about its parts. What a
property of the state keeps is such a preorder too, so an invariant is one more thing to lead along.
-/

import Mathlib.Logic.Relation
import Mathlib.Order.Defs.Unbundled

namespace IgniterLint

variable {ε σ α β : Type}

theorem bind_of_ok {action : EStateM ε σ α} {next : α → EStateM ε σ β} {state after : σ} {value : α}
    (returned : action state = .ok value after) : (action >>= next) state = next value after := by
  simp only [bind, EStateM.bind, returned]

theorem bind_of_error {action : EStateM ε σ α} {next : α → EStateM ε σ β} {state after : σ}
    {fault : ε} (failed : action state = .error fault after) :
    (action >>= next) state = .error fault after := by
  simp only [bind, EStateM.bind, failed]

/-- The state that an action leaves behind, whether it returns or fails. -/
def stateAfter (action : EStateM ε σ α) (state : σ) : σ :=
  match action state with
  | .ok _ after => after
  | .error _ after => after

/-- Whether an action returns. -/
def returns (action : EStateM ε σ α) (state : σ) : Bool :=
  match action state with
  | .ok _ _ => true
  | .error _ _ => false

theorem returns_eq_true_iff {action : EStateM ε σ α} {state : σ} :
    returns action state = true ↔ ∃ value after, action state = .ok value after := by
  unfold returns
  cases action state <;> simp

theorem returns_eq_false_iff {action : EStateM ε σ α} {state : σ} :
    returns action state = false ↔ ∃ fault after, action state = .error fault after := by
  unfold returns
  cases action state <;> simp

theorem stateAfter_of_ok {action : EStateM ε σ α} {state after : σ} {value : α}
    (returned : action state = .ok value after) : stateAfter action state = after := by
  rw [stateAfter, returned]

theorem stateAfter_of_error {action : EStateM ε σ α} {state after : σ} {fault : ε}
    (failed : action state = .error fault after) : stateAfter action state = after := by
  rw [stateAfter, failed]

theorem stateAfter_congr {action other : EStateM ε σ α} {state : σ}
    (same : action state = other state) : stateAfter action state = stateAfter other state := by
  rw [stateAfter, same, stateAfter]

theorem stateAfter_bind (action : EStateM ε σ α) (next : α → EStateM ε σ β) (state : σ) :
    stateAfter (action >>= next) state =
      match action state with
      | .ok value after => stateAfter (next value) after
      | .error _ after => after := by
  unfold stateAfter
  simp only [bind, EStateM.bind]
  cases action state <;> rfl

theorem stateAfter_bind_of_idle (action : EStateM ε σ α) {next : α → EStateM ε σ β}
    (idle : ∀ value state, stateAfter (next value) state = state) (state : σ) :
    stateAfter (action >>= next) state = stateAfter action state := by
  rw [stateAfter_bind, stateAfter]
  split
  · next value after _ => exact idle value after
  · rfl

/-- Whatever state the action starts in, it leaves one that is related to it. -/
def Leads (R : σ → σ → Prop) (action : EStateM ε σ α) : Prop :=
  ∀ state, R state (stateAfter action state)

variable {R : σ → σ → Prop}

theorem leads_modify {change : σ → σ} (related : ∀ state, R state (change state)) :
    Leads R (modify change : EStateM ε σ PUnit) := related

theorem Leads.ite {condition : Prop} [Decidable condition] {action other : EStateM ε σ α}
    (first : Leads R action) (second : Leads R other) :
    Leads R (if condition then action else other) := by
  split
  · exact first
  · exact second

/-! ### Along a preorder -/

variable [IsPreorder σ R]

theorem leads_pure (value : α) : Leads R (pure value : EStateM ε σ α) :=
  fun state => refl_of R state

theorem leads_throw (fault : ε) : Leads R (throw fault : EStateM ε σ α) :=
  fun state => refl_of R state

theorem leads_get : Leads R (get : EStateM ε σ σ) := fun state => refl_of R state

theorem Leads.bind {action : EStateM ε σ α} {next : α → EStateM ε σ β} (first : Leads R action)
    (rest : ∀ value, Leads R (next value)) : Leads R (action >>= next) := by
  intro state
  have start := first state
  rw [stateAfter_bind]
  unfold stateAfter at start
  split at start
  · next value after _ => exact trans_of R start (rest value after)
  · exact start

theorem Leads.forM {Item : Type} (items : List Item) (body : Item → EStateM ε σ PUnit)
    (each : ∀ item, Leads R (body item)) : Leads R (items.forM body) := by
  induction items with
  | nil => exact leads_pure PUnit.unit
  | cons item rest inductionHypothesis => exact (each item).bind fun _ => inductionHypothesis

/-! ### Along what is kept -/

/-- If the state had the property before, it has it after. -/
def Keeps (motive : σ → Prop) (before after : σ) : Prop := motive before → motive after

instance (motive : σ → Prop) : IsPreorder σ (Keeps motive) where
  refl _ := id
  trans _ _ _ first second := second ∘ first

/-- What holds once an action is over holds after whatever keeps it. -/
theorem stateAfter_bind_of_kept {motive : σ → Prop} {action : EStateM ε σ α}
    {next : α → EStateM ε σ β} {state : σ} (held : motive (stateAfter action state))
    (kept : ∀ value, Leads (Keeps motive) (next value)) :
    motive (stateAfter (action >>= next) state) := by
  rw [stateAfter_bind]
  unfold stateAfter at held
  split at held
  · next value after _ => exact kept value after held
  · exact held

end IgniterLint
