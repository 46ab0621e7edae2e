/-
This file says what is in a ledger after filings, one made after the other. The latest filing under
an identity is what is found there, and the identities stand in the order in which they first came.
Taking an identity out of the ledger is as good as never having filed under it.
-/

import IgniterLint.Ledger
import Mathlib.Data.List.Induction
import Mathlib.Data.List.Nodup

namespace IgniterLint

/-- Diagnostics to file, and the identity to file them under. -/
abbrev Filing := Text × List Diagnostic

namespace Ledger

/-- The ledger after filings, one after the other. -/
def insertAll (ledger : Ledger) (filings : List Filing) : Ledger :=
  filings.foldl (fun ledger filing => ledger.insert filing.1 filing.2) ledger

theorem insertAll_append (ledger : Ledger) (first second : List Filing) :
    ledger.insertAll (first ++ second) = (ledger.insertAll first).insertAll second := by
  rw [insertAll, List.foldl_append]
  rfl

theorem insertAll_concat (ledger : Ledger) (filings : List Filing) (latest : Filing) :
    ledger.insertAll (filings ++ [latest]) =
      (ledger.insertAll filings).insert latest.1 latest.2 := by
  rw [insertAll_append]
  rfl

/-- The latest filing under an identity decides what is found there. -/
theorem get_insertAll (name : String) (publisher : Option Collection) (filings : List Filing)
    (identity : Text) :
    ((fresh name publisher).insertAll filings).get identity =
      ((filings.filter (·.1 = identity)).getLast?.map (·.2)).getD [] := by
  induction filings using List.reverseRecOn with
  | nil => rfl
  | append_singleton earlier latest inductionHypothesis =>
    rw [insertAll_concat, List.filter_append]
    by_cases same : latest.1 = identity
    · rw [← same, get_insert_self, List.filter_cons_of_pos (by simp), List.filter_nil,
        List.getLast?_concat]
      rfl
    · rw [get_insert_of_ne _ _ _ _ (Ne.symm same), inductionHypothesis,
        List.filter_cons_of_neg (by simpa using same), List.filter_nil, List.append_nil]

theorem identities_insert (ledger : Ledger) (identity : Text) (diagnostics : List Diagnostic) :
    (ledger.insert identity diagnostics).identities =
      if identity ∈ ledger.identities then ledger.identities
      else ledger.identities ++ [identity] :=
  map_fst_put identity diagnostics ledger.entries

/-- The identities come in the order in which they were first filed. -/
theorem identities_insertAll (name : String) (publisher : Option Collection)
    (filings : List Filing) :
    ((fresh name publisher).insertAll filings).identities =
      (filings.map (·.1)).eraseDups := by
  induction filings using List.reverseRecOn with
  | nil => rfl
  | append_singleton earlier latest inductionHypothesis =>
    rw [insertAll_concat, identities_insert, inductionHypothesis, List.map_append,
      List.eraseDups_append, List.removeAll, List.map_cons, List.map_nil, List.filter_cons]
    by_cases known : latest.1 ∈ earlier.map (·.1)
    · simp [known]
    · simp [known, List.eraseDups_cons]

theorem nodup_identities_insert {ledger : Ledger} (distinct : ledger.identities.Nodup)
    (identity : Text) (diagnostics : List Diagnostic) :
    (ledger.insert identity diagnostics).identities.Nodup := by
  rw [identities_insert]
  split
  · exact distinct
  · next absent =>
    exact distinct.append (List.nodup_singleton identity) (List.disjoint_singleton.mpr absent)

theorem nodup_identities_insertAll {ledger : Ledger} (distinct : ledger.identities.Nodup)
    (filings : List Filing) : (ledger.insertAll filings).identities.Nodup :=
  List.foldlRecOn (motive := fun filed : Ledger => filed.identities.Nodup) filings _ distinct
    fun _ before filing _ => nodup_identities_insert before filing.1 filing.2

/-- Taking an identity out takes out its filings. -/
theorem erase_insertAll (ledger : Ledger) (filings : List Filing) (identity : Text) :
    (ledger.insertAll filings).erase identity =
      (ledger.erase identity).insertAll (filings.filter (·.1 ≠ identity)) := by
  induction filings using List.reverseRecOn with
  | nil => rfl
  | append_singleton earlier latest inductionHypothesis =>
    rw [insertAll_concat, List.filter_append]
    by_cases same : latest.1 = identity
    · rw [same, erase_insert_self, inductionHypothesis, List.filter_cons_of_neg (by simp [same]),
        List.filter_nil, List.append_nil]
    · rw [erase_insert_of_ne _ _ same, inductionHypothesis,
        List.filter_cons_of_pos (by simpa using same), List.filter_nil, insertAll_concat]

theorem clear_insertAll (ledger : Ledger) (filings : List Filing) :
    (ledger.insertAll filings).clear = ledger.clear :=
  List.foldlRecOn (motive := fun filed : Ledger => filed.clear = ledger.clear) filings _ rfl
    fun _ same _ _ => same

theorem erase_of_not_contains {ledger : Ledger} {identity : Text}
    (absent : ledger.contains identity = false) : ledger.erase identity = ledger := by
  have kept : ledger.entries.filter (fun entry => entry.1 ≠ identity) = ledger.entries := by
    refine List.filter_eq_self.mpr fun entry member => decide_eq_true ?_
    rintro rfl
    rw [contains, identities, List.contains_eq_mem, decide_eq_false_iff_not] at absent
    exact absent (List.mem_map_of_mem member)
  rw [erase, kept]

end Ledger

end IgniterLint
