/-
This file says which calls a scan finds, without speaking of the scan. A call occurs in a text when
the characters of its span spell it. Occurrences can overlap: the quotation mark that ends one
argument may start the next. A scan takes the first that it meets and goes on behind it, so it
misses an occurrence only if that starts inside one which it has taken.

What follows a text does not take back what was found in it. A call that the text breaks off may be
finished by what follows. But a call has only two quotation marks, and the second stands next to its
end, so no whole call fits into the part that is broken off.
-/

import IgniterLint.Proofs.Source.Occurrence

namespace IgniterLint.QuotedCall

variable {opening text : Text}

/-! ### Occurrences -/

/-- The call stands in the text where it says: the characters of its span spell it. -/
structure OccursIn (opening text : Text) (call : QuotedCall) : Prop where
  inside : call.span.stop ≤ text.length
  spelled : IsCall opening call.argument (call.span.slice text)

/-- The call starts behind the start of the other one and in front of its end. -/
def StartsInside (call other : QuotedCall) : Prop :=
  other.span.start < call.span.start ∧ call.span.start < other.span.stop

/-- The calls are what a scan from the left takes: occurrences in order, apart from each other, and
there are no more but those that start inside one of them. -/
structure IsScan (opening text : Text) (calls : List QuotedCall) : Prop where
  occurs : ∀ call ∈ calls, call.OccursIn opening text
  ordered : calls.Pairwise fun earlier later =>
    earlier.span.start < later.span.start ∧ earlier.span.stop ≤ later.span.start
  complete : ∀ call : QuotedCall, call.OccursIn opening text →
    call ∈ calls ∨ ∃ earlier ∈ calls, call.StartsInside earlier

/-- A text is cut in three by an occurrence. -/
theorem OccursIn.exists_split {call : QuotedCall} (occurs : call.OccursIn opening text) :
    ∃ before spelled after, text = before ++ (spelled ++ after) ∧
      IsCall opening call.argument spelled ∧
      call = ⟨before.length, call.argument, spelled.length⟩ := by
  obtain ⟨offset, argument, length⟩ := call
  have inside : offset + length ≤ text.length := occurs.inside
  have spelled : IsCall opening argument ((text.drop offset).take length) := by
    have sliced := occurs.spelled
    rwa [Span.slice, span, Span.length_ofLength] at sliced
  refine ⟨text.take offset, _, (text.drop offset).drop length, ?_, spelled, ?_⟩
  · rw [List.take_append_drop, List.take_append_drop]
  · rw [List.length_take_of_le (by omega), List.length_take_of_le (by rw [List.length_drop]; omega)]

theorem occursIn_of_mem_findAll {call : QuotedCall} (member : call ∈ findAll opening text) :
    call.OccursIn opening text := by
  refine ⟨?_, isCall_slice member⟩
  obtain ⟨before, spelled, after, rfl, _, place⟩ := exists_split_of_mem_findAll member
  rw [place]
  simp [Span.ofLength]

/-- Only one call can start at a place. -/
theorem IsCall.eq_of_append_eq {argument call rest other otherCall otherRest : Text}
    (spelled : IsCall opening argument call) (otherSpelled : IsCall opening other otherCall)
    (same : call ++ rest = otherCall ++ otherRest) : argument = other ∧ call = otherCall := by
  have found : argumentAt? opening (call ++ rest) = some argument :=
    (argumentAt?_eq_some_iff _ _ _).mpr ⟨call, rest, spelled, rfl⟩
  have otherFound : argumentAt? opening (call ++ rest) = some other :=
    (argumentAt?_eq_some_iff _ _ _).mpr ⟨otherCall, otherRest, otherSpelled, same⟩
  obtain rfl : argument = other := Option.some.inj (found.symm.trans otherFound)
  have length : call.length = otherCall.length := by
    rw [spelled.length_eq, otherSpelled.length_eq]
  exact ⟨rfl, (List.append_inj same length).1⟩

/-- A call that is spelled in what a scan goes over is taken, unless the scan is inside another one
where it starts. -/
theorem mem_findFrom_or_inside {argument spelled : Text} (isCall : IsCall opening argument spelled)
    (offset : Nat) (text before after : Text) (split : text = before ++ (spelled ++ after)) :
    ⟨offset + before.length, argument, spelled.length⟩ ∈ findFrom opening offset 0 text ∨
      ∃ earlier ∈ findFrom opening offset 0 text, earlier.offset < offset + before.length ∧
        offset + before.length < earlier.offset + earlier.length := by
  -- Along the walk of the scan: where it takes a call, ours is it, starts inside or lies behind.
  induction text using scanInduction opening generalizing offset before with
  | nil => exact absurd split.symm (by simp [isCall.ne_nil])
  | call other first rest firstCall inductionHypothesis =>
    rw [findFrom_call _ _ _ _ _ firstCall]
    rcases Nat.lt_or_ge before.length first.length with within | behind
    · cases before with
      | nil =>
        obtain ⟨rfl, rfl⟩ := isCall.eq_of_append_eq firstCall split.symm
        exact Or.inl List.mem_cons_self
      | cons c before =>
        refine Or.inr ⟨_, List.mem_cons_self, ?_, ?_⟩
        · exact Nat.lt_add_of_pos_right (Nat.succ_pos before.length)
        · exact Nat.add_lt_add_left within offset
    · obtain ⟨front, rfl⟩ :=
        List.prefix_of_prefix_length_le ⟨rest, rfl⟩ ⟨_, split.symm⟩ behind
      rw [List.append_assoc, List.append_cancel_left_eq] at split
      rw [List.length_append, ← Nat.add_assoc]
      refine (inductionHypothesis (offset + first.length) front split).imp ?_ ?_
      · exact List.mem_cons_of_mem _
      · rintro ⟨earlier, member, inside⟩
        exact ⟨earlier, List.mem_cons_of_mem _ member, inside⟩
  | other c rest none inductionHypothesis =>
    rw [findFrom_other _ _ _ _ none]
    cases before with
    | nil =>
      have found : argumentAt? opening (c :: rest) = some argument :=
        (argumentAt?_eq_some_iff _ _ _).mpr ⟨spelled, after, isCall, split⟩
      exact absurd (none.symm.trans found) nofun
    | cons d before =>
      have moved := inductionHypothesis (offset + 1) before (List.cons.inj split).2
      rwa [Nat.add_right_comm, Nat.add_assoc] at moved

theorem isScan_findAll (opening text : Text) : IsScan opening text (findAll opening text) := by
  refine ⟨fun call => occursIn_of_mem_findAll, pairwise_span_findAll opening text, ?_⟩
  intro call occurs
  obtain ⟨before, spelled, after, split, isCall, place⟩ := occurs.exists_split
  have taken := mem_findFrom_or_inside isCall 0 text before after split
  rw [Nat.zero_add, ← place] at taken
  refine taken.imp_right ?_
  rintro ⟨earlier, member, starts, stops⟩
  refine ⟨earlier, member, ?_⟩
  rw [place]
  exact ⟨starts, stops⟩

/-! ### More text behind -/

/-- The opening words have no quotation mark in them. -/
def OpensUnmarked (opening : Text) : Prop := ∀ c ∈ opening, isMark c = false

instance (opening : Text) : Decidable (OpensUnmarked opening) := List.decidableBAll _ opening

theorem countP_isMark_eq_zero {part : Text} (unmarked : ∀ c ∈ part, isMark c = false) :
    part.countP isMark = 0 := by
  rw [List.countP_eq_zero]
  intro c member
  rw [unmarked c member]
  exact Bool.false_ne_true

/-- A call has two quotation marks. -/
theorem IsCall.countP_isMark {argument call : Text} (spelled : IsCall opening argument call)
    (unmarked : OpensUnmarked opening) : call.countP isMark = 2 := by
  obtain ⟨left, right, leftMark, rightMark, _, inner, rfl⟩ := spelled
  have closing : isMark ')' = false := by decide
  simp [countP_isMark_eq_zero unmarked, countP_isMark_eq_zero inner, leftMark, rightMark, closing]

/-- Into a call that is broken off, no whole call fits. -/
theorem IsCall.not_infix_of_brokenOff {argument whole part other call : Text}
    (unmarked : OpensUnmarked opening) (spelled : IsCall opening argument whole)
    (brokenOff : part <+: whole) (short : part ≠ whole) (otherSpelled : IsCall opening other call) :
    ¬ call <:+: part := by
  intro within
  have marks := otherSpelled.countP_isMark unmarked
  have last := otherSpelled.getLast?_eq
  obtain ⟨left, right, leftMark, rightMark, _, inner, rfl⟩ := spelled
  have pieces : opening ++ left :: (argument ++ [right, ')']) =
      (opening ++ left :: argument) ++ [right] ++ [')'] := by simp
  rw [pieces] at brokenOff short
  have front : part <+: (opening ++ left :: argument) ++ [right] :=
    (List.prefix_concat_iff.mp brokenOff).resolve_left short
  rcases List.infix_concat_iff.mp (within.trans front.isInfix) with ends | inFront
  · -- A call does not end with a quotation mark.
    obtain ⟨before, split⟩ := ends
    have isRight := congrArg List.getLast? split
    rw [List.getLast?_append, last, List.getLast?_concat, Option.some_or] at isRight
    rw [← Option.some.inj isRight] at rightMark
    exact absurd rightMark (by decide)
  · -- There is only one mark in front of the last.
    have few := inFront.sublist.countP_le (p := isMark)
    rw [marks, List.countP_append, countP_isMark_eq_zero unmarked, List.countP_cons,
      countP_isMark_eq_zero inner, leftMark] at few
    exact absurd few (by decide)

/-- What was found in a text is found first when more text follows. -/
theorem findFrom_prefix_append (unmarked : OpensUnmarked opening) (offset : Nat)
    (before after : Text) :
    findFrom opening offset 0 before <+: findFrom opening offset 0 (before ++ after) := by
  induction before using scanInduction opening generalizing offset with
  | nil => exact List.nil_prefix
  | call argument first rest spelled inductionHypothesis =>
    rw [List.append_assoc, findFrom_call _ _ _ _ _ spelled, findFrom_call _ _ _ _ _ spelled,
      List.prefix_cons_inj]
    exact inductionHypothesis _
  | other c rest none inductionHypothesis =>
    rw [findFrom_other _ _ _ _ none]
    cases found : argumentAt? opening (c :: rest ++ after) with
    | none =>
      rw [List.cons_append, findFrom_other opening c (rest ++ after) offset found]
      exact inductionHypothesis _
    | some argument =>
      -- The call that starts here is broken off, and no other one was found behind its start.
      obtain ⟨whole, tail, spelled, split⟩ := (argumentAt?_eq_some_iff _ _ _).mp found
      have unfinished : ¬ whole <+: c :: rest := by
        rintro ⟨remaining, finished⟩
        have finds : argumentAt? opening (c :: rest) = some argument :=
          (argumentAt?_eq_some_iff _ _ _).mpr ⟨whole, remaining, spelled, finished.symm⟩
        exact absurd (none.symm.trans finds) nofun
      have brokenOff : c :: rest <+: whole :=
        (List.prefix_or_prefix_of_prefix ⟨after, split⟩ ⟨tail, rfl⟩).resolve_right unfinished
      have short : c :: rest ≠ whole := fun same => unfinished (same ▸ List.prefix_refl _)
      have nothing : findFrom opening (offset + 1) 0 rest = [] := by
        refine List.eq_nil_iff_forall_not_mem.mpr fun call member => ?_
        obtain ⟨front, inner, back, rfl, isCall, _, _⟩ :=
          exists_split_of_mem_findFrom _ _ _ _ member
        exact IsCall.not_infix_of_brokenOff unmarked spelled brokenOff short isCall
          ⟨c :: front, back, by simp⟩
      rw [nothing]
      exact List.nil_prefix

theorem findAll_prefix_append (unmarked : OpensUnmarked opening) (before after : Text) :
    findAll opening before <+: findAll opening (before ++ after) :=
  findFrom_prefix_append unmarked 0 before after

end IgniterLint.QuotedCall
