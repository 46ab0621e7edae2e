/-
This file is about steps that return or fail. A list is worked through from the front, and the first
failure is that of the whole; if there is none, every result belongs to an item, and what each step
keeps is kept to the end.
-/

import Mathlib.Data.List.Forall2

namespace IgniterLint

variable {α β ε : Type} {step : α → Except ε β} {items : List α}

theorem ok_bind (value : α) (step : α → Except ε β) : Except.ok value >>= step = step value := rfl

theorem bind_eq_ok_iff {first : Except ε α} {result : β} :
    first >>= step = .ok result ↔ ∃ value, first = .ok value ∧ step value = .ok result := by
  cases first <;> simp [bind, Except.bind]

theorem bind_eq_error_iff {first : Except ε α} {fault : ε} :
    first >>= step = .error fault ↔
      first = .error fault ∨ ∃ value, first = .ok value ∧ step value = .error fault := by
  cases first <;> simp [bind, Except.bind]

/-- Working through a list returns exactly when every step does. -/
theorem mapM_eq_ok_iff {results : List β} :
    items.mapM step = .ok results ↔ items.map step = results.map .ok := by
  induction items generalizing results with
  | nil => cases results <;> simp [pure, Except.pure]
  | cons item rest inductionHypothesis =>
    rw [List.mapM_cons, bind_eq_ok_iff, List.map_cons]
    constructor
    · rintro ⟨first, firstReturned, returned⟩
      obtain ⟨others, othersReturned, returned⟩ := bind_eq_ok_iff.mp returned
      obtain rfl : first :: others = results := Except.ok.inj returned
      rw [List.map_cons, firstReturned, inductionHypothesis.mp othersReturned]
    · intro same
      obtain ⟨first, others, rfl, firstReturned, othersReturned⟩ :=
        List.map_eq_cons_iff.mp same.symm
      refine ⟨first, firstReturned.symm, ?_⟩
      rw [inductionHypothesis.mpr othersReturned.symm]
      rfl

theorem mapM_eq_ok_iff_forall₂ {results : List β} :
    items.mapM step = .ok results ↔
      List.Forall₂ (fun item result => step item = .ok result) items results := by
  rw [mapM_eq_ok_iff, ← List.forall₂_eq_eq_eq, List.forall₂_map_left_iff,
    List.forall₂_map_right_iff]

theorem mapM_eq_ok (step : α → Except ε β) (result : α → β) (items : List α)
    (each : ∀ item ∈ items, step item = .ok (result item)) :
    items.mapM step = .ok (items.map result) := by
  rw [mapM_eq_ok_iff, List.map_map]
  exact List.map_congr_left each

theorem exists_item_of_mapM {results : List β} (returned : items.mapM step = .ok results)
    {result : β} (member : result ∈ results) : ∃ item ∈ items, step item = .ok result := by
  have returnedHere : .ok result ∈ items.map step := by
    rw [mapM_eq_ok_iff.mp returned]
    exact List.mem_map_of_mem member
  exact List.mem_map.mp returnedHere

theorem exists_result_of_mapM {results : List β} (returned : items.mapM step = .ok results)
    {item : α} (member : item ∈ items) : ∃ result ∈ results, step item = .ok result := by
  have here : step item ∈ results.map .ok := by
    rw [← mapM_eq_ok_iff.mp returned]
    exact List.mem_map_of_mem member
  obtain ⟨result, inResults, same⟩ := List.mem_map.mp here
  exact ⟨result, inResults, same.symm⟩

/-- Working through a list fails exactly if a step fails, and then it is the first such step that
tells. -/
theorem mapM_eq_error_iff {fault : ε} :
    items.mapM step = .error fault ↔ ∃ earlier item later, items = earlier ++ item :: later ∧
      (∀ other ∈ earlier, ∃ result, step other = .ok result) ∧ step item = .error fault := by
  induction items with
  | nil =>
    refine iff_of_false nofun ?_
    rintro ⟨earlier, item, later, split, _⟩
    simp at split
  | cons first rest inductionHypothesis =>
    rw [List.mapM_cons, bind_eq_error_iff]
    constructor
    · rintro (failed | ⟨result, returned, failed⟩)
      · exact ⟨[], first, rest, rfl, nofun, failed⟩
      · rcases bind_eq_error_iff.mp failed with failed | ⟨others, _, failed⟩
        · obtain ⟨earlier, item, later, rfl, returnedEarlier, failed⟩ :=
            inductionHypothesis.mp failed
          exact ⟨first :: earlier, item, later, rfl,
            List.forall_mem_cons.mpr ⟨⟨result, returned⟩, returnedEarlier⟩, failed⟩
        · exact nomatch (show Except.ok _ = Except.error fault from failed)
    · rintro ⟨earlier, item, later, split, returnedEarlier, failed⟩
      cases earlier with
      | nil =>
        obtain ⟨rfl, rfl⟩ := List.cons.inj split
        exact Or.inl failed
      | cons head earlier =>
        obtain ⟨rfl, rfl⟩ := List.cons.inj split
        obtain ⟨⟨result, returned⟩, returnedEarlier⟩ := List.forall_mem_cons.mp returnedEarlier
        refine Or.inr ⟨result, returned, bind_eq_error_iff.mpr (Or.inl ?_)⟩
        exact inductionHypothesis.mpr ⟨earlier, item, later, rfl, returnedEarlier, failed⟩

theorem exists_error_of_mapM {fault : ε} (failed : items.mapM step = .error fault) :
    ∃ item ∈ items, step item = .error fault := by
  obtain ⟨earlier, item, later, rfl, _, failed⟩ := mapM_eq_error_iff.mp failed
  exact ⟨item, List.mem_append_right _ List.mem_cons_self, failed⟩

theorem exists_mapM_eq_ok_iff :
    (∃ results, items.mapM step = .ok results) ↔
      ∀ item ∈ items, ∃ result, step item = .ok result := by
  constructor
  · rintro ⟨results, returned⟩ item member
    obtain ⟨result, _, stepped⟩ := exists_result_of_mapM returned member
    exact ⟨result, stepped⟩
  · intro each
    cases returned : items.mapM step with
    | ok results => exact ⟨results, rfl⟩
    | error fault =>
      obtain ⟨item, member, failed⟩ := exists_error_of_mapM returned
      obtain ⟨result, stepped⟩ := each item member
      exact absurd (failed.symm.trans stepped) nofun

/-- What can be read off every result, the results show in the order of the items. -/
theorem map_eq_of_mapM {γ : Type} {shown : β → γ} {expected : α → γ}
    (each : ∀ item result, step item = .ok result → shown result = expected item)
    {results : List β} (returned : items.mapM step = .ok results) :
    results.map shown = items.map expected := by
  rw [mapM_eq_ok_iff] at returned
  induction items generalizing results with
  | nil =>
    obtain rfl : results = [] := List.map_eq_nil_iff.mp returned.symm
    rfl
  | cons item rest inductionHypothesis =>
    obtain ⟨first, others, rfl, firstReturned, othersReturned⟩ :=
      List.map_eq_cons_iff.mp returned.symm
    rw [List.map_cons, List.map_cons, each item first firstReturned.symm,
      inductionHypothesis othersReturned.symm]

/-- What every step keeps, all of them together keep. -/
theorem foldlM_keeps {motive : β → Prop} {step : β → α → Except ε β}
    (keeps : ∀ before item after, motive before → step before item = .ok after → motive after)
    {start final : β} (holds : motive start) (returned : items.foldlM step start = .ok final) :
    motive final := by
  induction items generalizing start with
  | nil =>
    obtain rfl : start = final := Except.ok.inj returned
    exact holds
  | cons item rest inductionHypothesis =>
    rw [List.foldlM_cons] at returned
    obtain ⟨next, stepped, returned⟩ := bind_eq_ok_iff.mp returned
    exact inductionHypothesis (keeps start item next holds stepped) returned

end IgniterLint
