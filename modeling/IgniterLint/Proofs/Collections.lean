/-
This file reads the life of collections off the record of calls. The editor numbers collections in
the order in which it hands them out, so the record alone tells which there are and which is the
latest. A record is orderly when every call on a collection is made on the one that was handed out
last before it, and none is made on a collection once a clearing of it has returned.
-/

import IgniterLint.Proofs.Editor
import Mathlib.Data.List.Induction

namespace IgniterLint

/-- The collection on which a call is made: the one published in or cleared. -/
def Call.addressee? : Call → Option Collection
  | .publish collection _ _ => some collection
  | .clear collection => some collection
  | _ => none

/-- The name of the collection that a call brought into being. -/
def CallRecord.created? : CallRecord → Option String
  | ⟨.createCollection name, true⟩ => some name
  | _ => none

/-- The call concerns no collection: it brought none into being, and was made on none. -/
structure CallRecord.Aside (record : CallRecord) : Prop where
  created? : record.created? = none
  addressee? : record.call.addressee? = none

theorem CallRecord.created?_of_addressee? {record : CallRecord} {collection : Collection}
    (addressed : record.call.addressee? = some collection) : record.created? = none := by
  obtain ⟨call, returned⟩ := record
  cases call with
  | createCollection name => exact absurd addressed (Option.some_ne_none collection).symm
  | _ => rfl

namespace Collection

/-! ### The collections there are -/

/-- The collections that calls brought into being, the earliest first. -/
def created (calls : List CallRecord) : List Collection :=
  (calls.filterMap (·.created?)).mapIdx fun number name => ⟨number, name⟩

/-- The collection that was brought into being last. -/
def latest? (calls : List CallRecord) : Option Collection := (created calls).getLast?

theorem created_append_of_none (calls more : List CallRecord)
    (none : ∀ record ∈ more, record.created? = none) : created (calls ++ more) = created calls := by
  have unnamed : more.filterMap (·.created?) = [] := List.filterMap_eq_nil_iff.mpr none
  rw [created, List.filterMap_append, unnamed, List.append_nil, created]

theorem created_append_createCollection (calls : List CallRecord) (name : String) :
    created (calls ++ [⟨.createCollection name, true⟩]) =
      created calls ++ [⟨(created calls).length, name⟩] := by
  have named :
      [(⟨.createCollection name, true⟩ : CallRecord)].filterMap (·.created?) = [name] := rfl
  rw [created, List.filterMap_append, named, List.mapIdx_concat, created, List.length_mapIdx]

theorem number_lt_of_mem_created {calls : List CallRecord} {collection : Collection}
    (member : collection ∈ created calls) : collection.number < (created calls).length := by
  obtain ⟨number, inside, rfl⟩ := List.mem_mapIdx.mp member
  rw [created, List.length_mapIdx]
  exact inside

theorem length_created_le (calls more : List CallRecord) :
    (created calls).length ≤ (created (calls ++ more)).length := by
  simp only [created, List.length_mapIdx, List.filterMap_append, List.length_append]
  exact Nat.le_add_right _ _

/-! ### Orderly records -/

/-- A call comes in order after others: the collection on which it is made, if there is one, is the
latest and has not been cleared. -/
def InOrder (earlier : List CallRecord) (call : Call) : Prop :=
  ∀ collection, call.addressee? = some collection →
    latest? earlier = some collection ∧ ⟨.clear collection, true⟩ ∉ earlier

/-- Every call comes in order after those before it. -/
def Orderly (calls : List CallRecord) : Prop :=
  ∀ earlier record later, calls = earlier ++ record :: later → InOrder earlier record.call

theorem orderly_nil : Orderly [] := by
  intro earlier record later split
  exact absurd split (by simp)

theorem Orderly.append_singleton {calls : List CallRecord} (orderly : Orderly calls)
    {record : CallRecord} (inOrder : InOrder calls record.call) : Orderly (calls ++ [record]) := by
  intro earlier other later split
  rcases List.eq_nil_or_concat later with rfl | ⟨between, last, rfl⟩
  · obtain ⟨rfl, same⟩ := List.append_inj' split rfl
    rw [← List.singleton_inj.mp same]
    exact inOrder
  · rw [List.concat_eq_append, ← List.cons_append, ← List.append_assoc] at split
    exact orderly earlier other between (List.append_inj' split rfl).1

theorem Orderly.append_aside {calls more : List CallRecord} (orderly : Orderly calls)
    (aside : ∀ record ∈ more, record.Aside) : Orderly (calls ++ more) := by
  induction more using List.reverseRecOn with
  | nil => rwa [List.append_nil]
  | append_singleton more record inductionHypothesis =>
    obtain ⟨asideMore, asideRecord⟩ := List.forall_mem_append.mp aside
    rw [← List.append_assoc]
    refine (inductionHypothesis asideMore).append_singleton fun collection addressed => ?_
    have none := (asideRecord record List.mem_cons_self).addressee?
    exact absurd (none.symm.trans addressed) (Option.some_ne_none collection).symm

theorem not_mem_clear_of_aside {calls : List CallRecord} (aside : ∀ record ∈ calls, record.Aside)
    (collection : Collection) : ⟨.clear collection, true⟩ ∉ calls := by
  intro member
  exact absurd (aside _ member).addressee? (Option.some_ne_none collection)

theorem Orderly.number_lt {calls : List CallRecord} (orderly : Orderly calls)
    {record : CallRecord} (member : record ∈ calls) {collection : Collection}
    (addressed : record.call.addressee? = some collection) :
    collection.number < (created calls).length := by
  obtain ⟨earlier, later, rfl⟩ := List.append_of_mem member
  have isLatest := (orderly earlier record later rfl collection addressed).1
  have known := number_lt_of_mem_created (List.mem_of_getLast? isLatest)
  exact Nat.lt_of_lt_of_le known (length_created_le earlier (record :: later))

/-- No call is made on a collection once a clearing of it has returned. -/
theorem Orderly.addressee?_ne_of_clear {earlier later : List CallRecord} {collection : Collection}
    (orderly : Orderly (earlier ++ ⟨.clear collection, true⟩ :: later)) :
    ∀ record ∈ later, record.call.addressee? ≠ some collection := by
  intro record member addressed
  obtain ⟨between, rest, rfl⟩ := List.append_of_mem member
  have split : earlier ++ ⟨.clear collection, true⟩ :: (between ++ record :: rest) =
      (earlier ++ ⟨.clear collection, true⟩ :: between) ++ record :: rest := by
    rw [List.append_assoc, List.cons_append]
  exact (orderly _ record rest split collection addressed).2 (by simp)

/-- At most one clearing of a collection returns. -/
theorem Orderly.count_clear_le {calls : List CallRecord} (orderly : Orderly calls)
    (collection : Collection) : calls.count ⟨.clear collection, true⟩ ≤ 1 := by
  by_cases cleared : ⟨.clear collection, true⟩ ∈ calls
  · obtain ⟨earlier, later, rfl⟩ := List.append_of_mem cleared
    have notEarlier := (orderly earlier _ later rfl collection rfl).2
    have notLater : ⟨.clear collection, true⟩ ∉ later :=
      fun again => orderly.addressee?_ne_of_clear _ again rfl
    have once : (earlier ++ ⟨.clear collection, true⟩ :: later).count ⟨.clear collection, true⟩ =
        1 := by
      rw [List.count_append, List.count_cons_self, List.count_eq_zero.mpr notEarlier,
        List.count_eq_zero.mpr notLater]
    exact Nat.le_of_eq once
  · rw [List.count_eq_zero.mpr cleared]
    exact Nat.zero_le 1

end Collection

end IgniterLint
