/-
This file says what lowering the case of a text comes to. Two facts about the table of capitals
carry it, and both compare whole runs, not single letters. No small letter of a run is a capital of
another, so what has been lowered once stays as it is. And no small letter is a blank or a
backslash, so lowering makes none of them.

The capital sigma is the one letter that looks around. It sees of each other character only whether
letter case looks through it and whether it has case. A capital of the Latin alphabet and its small
letter are alike in both, so to the sigma it makes no difference which of them is written.
-/

import IgniterLint.Text.Blank
import IgniterLint.Text.LowerCase
import Mathlib.Data.Bool.AllAny
import Mathlib.Data.List.Forall2

namespace IgniterLint.Text

/-! ### The table of capitals -/

namespace CaseRun

/-- The codes of the small letters of the run all lie below `first` or all above `last`. -/
def avoids (run : CaseRun) (first last : Nat) : Bool :=
  (run.lower run.last).blt first || last.blt run.small

/-- Small letters and the other run's capitals both take every second code, one of them the even and
the other the odd ones. -/
def alternates (run other : CaseRun) : Bool :=
  (run.step == 2 || run.first == run.last) && other.step == 2 && (run.small + other.first) % 2 == 1

/-- The search for a small letter of the run among the capitals ends without one. Like the search,
this does not look at runs that start behind the letters. -/
def passes (run : CaseRun) : List CaseRun → Bool
  | [] => true
  | other :: rest =>
    (run.lower run.last).blt other.first ||
      (run.avoids other.first other.last || run.alternates other) && passes run rest

/-- The codes of the small letters are codes of characters. -/
def valid (run : CaseRun) : Bool :=
  run.avoids 0xd800 0xdfff && (run.lower run.last).blt 0x110000

variable {run : CaseRun} {code : Nat}

theorem covers_iff :
    run.covers code = true ↔
      run.first ≤ code ∧ code ≤ run.last ∧ (code - run.first) % run.step = 0 := by
  simp [covers, and_assoc]

theorem lower_bounds (covered : run.covers code = true) :
    run.small ≤ run.lower code ∧ run.lower code ≤ run.lower run.last := by
  obtain ⟨_, stops, _⟩ := covers_iff.mp covered
  simp only [lower]
  omega

theorem not_between_of_avoids {first last : Nat} (avoids : run.avoids first last = true)
    (covered : run.covers code = true) : ¬ (first ≤ run.lower code ∧ run.lower code ≤ last) := by
  have bounds := lower_bounds covered
  simp only [CaseRun.avoids, Bool.or_eq_true, Nat.blt_eq] at avoids
  omega

theorem not_covers_of_alternates {other : CaseRun} (alternates : run.alternates other = true)
    (covered : run.covers code = true) : other.covers (run.lower code) = false := by
  simp only [CaseRun.alternates, Bool.and_eq_true, Bool.or_eq_true, beq_iff_eq] at alternates
  obtain ⟨⟨spaced, isTwo⟩, odd⟩ := alternates
  obtain ⟨starts, stops, stepped⟩ := covers_iff.mp covered
  rw [Bool.eq_false_iff, Ne, covers_iff, isTwo, lower]
  rcases spaced with isTwo | single
  · rw [isTwo] at stepped
    omega
  · omega

theorem runOf?_lower_eq_none {runs : List CaseRun} (passes : run.passes runs = true)
    (covered : run.covers code = true) : runOf? (run.lower code) runs = none := by
  induction runs with
  | nil => rfl
  | cons other rest inductionHypothesis =>
    rw [runOf?]
    split
    · rfl
    · next behind =>
      have bounds := lower_bounds covered
      rw [CaseRun.passes, Bool.or_eq_true, Nat.blt_eq, Bool.and_eq_true, Bool.or_eq_true] at passes
      obtain ⟨apart | alternating, later⟩ := passes.resolve_left (by omega)
      · have uncovered : other.covers (run.lower code) ≠ true := by
          rw [Ne, covers_iff]
          exact fun within =>
            not_between_of_avoids apart covered ⟨within.1, within.2.1⟩
        rw [if_neg uncovered]
        exact inductionHypothesis later
      · rw [not_covers_of_alternates alternating covered, if_neg Bool.false_ne_true]
        exact inductionHypothesis later

theorem isValidChar_lower (valid : run.valid = true) (covered : run.covers code = true) :
    (run.lower code).isValidChar := by
  have bounds := lower_bounds covered
  rw [CaseRun.valid, Bool.and_eq_true, Nat.blt_eq] at valid
  have notSurrogate := not_between_of_avoids valid.1 covered
  rw [Nat.isValidChar]
  omega

end CaseRun

/-- The codes that no small letter has and that the table does not list: the backslash, the dotted
capital I and the blanks. -/
def unlettered : List (Nat × Nat) := (0x005c, 0x005c) :: (0x0130, 0x0130) :: blankRanges

theorem passes_caseRuns : ∀ run ∈ caseRuns, run.passes caseRuns = true := by decide +kernel

theorem avoids_unlettered :
    ∀ run ∈ caseRuns, ∀ range ∈ unlettered, run.avoids range.1 range.2 = true := by
  decide +kernel

theorem valid_caseRuns : ∀ run ∈ caseRuns, run.valid = true := by decide +kernel

theorem of_runOf?_eq_some {code : Nat} {runs : List CaseRun} {run : CaseRun}
    (found : runOf? code runs = some run) : run ∈ runs ∧ run.covers code = true := by
  induction runs with
  | nil => exact nomatch found
  | cons first rest inductionHypothesis =>
    rw [runOf?] at found
    split at found
    · exact nomatch found
    · split at found
      · next covered =>
        obtain rfl := Option.some.inj found
        exact ⟨List.mem_cons_self, covered⟩
      · obtain ⟨member, covered⟩ := inductionHypothesis found
        exact ⟨List.mem_cons_of_mem _ member, covered⟩

theorem inRanges_eq_false_iff {ranges : List (Nat × Nat)} {c : Char} :
    inRanges ranges c = false ↔ ∀ range ∈ ranges, ¬ (range.1 ≤ c.toNat ∧ c.toNat ≤ range.2) := by
  simp [inRanges]

/-! ### Small letters -/

/-- Lowering leaves the character as it is, wherever it stands. -/
def IsSmall (c : Char) : Prop := ∀ before rest, lowerBetween before c rest = [c]

theorem isSmall_of_runOf? {c : Char} (undotted : c ≠ '\u0130')
    (unlisted : runOf? c.toNat caseRuns = none) : IsSmall c := by
  intro before rest
  have notSigma : c ≠ '\u03a3' := by
    rintro rfl
    exact absurd unlisted (by decide +kernel)
  rw [lowerBetween, if_neg undotted, if_neg notSigma, lowerChar, unlisted]

/-- A character that lowering leaves alone, and that is neither a blank nor a backslash. -/
structure IsSmallLetter (c : Char) : Prop where
  small : IsSmall c
  unblank : isBlank c = false
  forward : c ≠ '\\'

theorem isSmallLetter_lower {run : CaseRun} (stands : run ∈ caseRuns) {code : Nat}
    (covered : run.covers code = true) : IsSmallLetter (Char.ofNat (run.lower code)) := by
  have isCode : (Char.ofNat (run.lower code)).toNat = run.lower code := by
    rw [Char.ofNat, dif_pos (CaseRun.isValidChar_lower (valid_caseRuns run stands) covered)]
    rfl
  have apart : ∀ range ∈ unlettered, ¬ (range.1 ≤ run.lower code ∧ run.lower code ≤ range.2) :=
    fun range member =>
      CaseRun.not_between_of_avoids (avoids_unlettered run stands range member) covered
  rw [unlettered, List.forall_mem_cons, List.forall_mem_cons, ← isCode] at apart
  obtain ⟨noBackslash, noDotted, noBlank⟩ := apart
  refine ⟨isSmall_of_runOf? ?_ ?_, inRanges_eq_false_iff.mpr noBlank, ?_⟩
  · intro dotted
    rw [dotted] at noDotted
    exact noDotted (by decide)
  · rw [isCode]
    exact CaseRun.runOf?_lower_eq_none (passes_caseRuns run stands) covered
  · intro backslash
    rw [backslash] at noBackslash
    exact noBackslash (by decide)

/-- The small letters that are written for the two capitals apart from the table. -/
theorem isSmallLetter_special : ∀ c ∈ ['i', '\u0307', '\u03c2', '\u03c3'], IsSmallLetter c := by
  have unlisted : ∀ c ∈ ['i', '\u0307', '\u03c2', '\u03c3'], c ≠ '\u0130' ∧
      runOf? c.toNat caseRuns = none ∧ isBlank c = false ∧ c ≠ '\\' :=
    List.all_iff_forall_prop.mp (by decide +kernel)
  intro c member
  obtain ⟨undotted, none, unblank, forward⟩ := unlisted c member
  exact ⟨isSmall_of_runOf? undotted none, unblank, forward⟩

/-- Lowering writes small letters, or the character itself if that is small. -/
theorem mem_lowerBetween {before rest : Text} {c d : Char}
    (written : d ∈ lowerBetween before c rest) : IsSmallLetter d ∨ d = c ∧ IsSmall c := by
  rw [lowerBetween] at written
  split at written
  · left
    rcases List.mem_pair.mp written with rfl | rfl
    · exact isSmallLetter_special _ (by decide)
    · exact isSmallLetter_special _ (by decide)
  · next undotted =>
    split at written
    · left
      rw [List.mem_singleton.mp written]
      split
      · exact isSmallLetter_special _ (by decide)
      · exact isSmallLetter_special _ (by decide)
    · rw [List.mem_singleton.mp written, lowerChar]
      cases found : runOf? c.toNat caseRuns with
      | none => exact Or.inr ⟨rfl, isSmall_of_runOf? undotted found⟩
      | some run =>
        obtain ⟨stands, covered⟩ := of_runOf?_eq_some found
        exact Or.inl (isSmallLetter_lower stands covered)

theorem lowerBetween_ne_nil (before : Text) (c : Char) (rest : Text) :
    lowerBetween before c rest ≠ [] := by
  rw [lowerBetween]
  split
  · exact List.cons_ne_nil _ _
  · split <;> exact List.cons_ne_nil _ _

/-! ### Lowered texts -/

theorem exists_of_mem_lowerAfter {before text : Text} {d : Char}
    (written : d ∈ lowerAfter before text) : ∃ c ∈ text, IsSmallLetter d ∨ d = c ∧ IsSmall c := by
  induction text generalizing before with
  | nil => exact absurd written List.not_mem_nil
  | cons c rest inductionHypothesis =>
    rcases List.mem_append.mp written with here | later
    · exact ⟨c, List.mem_cons_self, mem_lowerBetween here⟩
    · obtain ⟨e, member, origin⟩ := inductionHypothesis later
      exact ⟨e, List.mem_cons_of_mem c member, origin⟩

theorem isSmall_of_mem_lower {text : Text} {c : Char} (written : c ∈ lower text) : IsSmall c := by
  obtain ⟨d, _, letter | ⟨rfl, small⟩⟩ := exists_of_mem_lowerAfter written
  · exact letter.small
  · exact small

theorem backslash_notMem_lower {text : Text} (forward : '\\' ∉ text) : '\\' ∉ lower text := by
  intro written
  obtain ⟨d, member, letter | ⟨rfl, _⟩⟩ := exists_of_mem_lowerAfter written
  · exact letter.forward rfl
  · exact forward member

theorem lowerAfter_of_small {text : Text} (small : ∀ c ∈ text, IsSmall c) (before : Text) :
    lowerAfter before text = text := by
  induction text generalizing before with
  | nil => rfl
  | cons c rest inductionHypothesis =>
    obtain ⟨here, later⟩ := List.forall_mem_cons.mp small
    rw [lowerAfter, here, inductionHypothesis later, List.singleton_append]

theorem unblank_of_mem_lowerBetween {before rest : Text} {c d : Char} (unblank : isBlank c = false)
    (written : d ∈ lowerBetween before c rest) : isBlank d = false := by
  rcases mem_lowerBetween written with letter | ⟨rfl, _⟩
  · exact letter.unblank
  · exact unblank

theorem head?_lower_cons (c : Char) (rest : Text) :
    (lower (c :: rest)).head? = (lowerBetween [] c rest).head? :=
  List.head?_append_of_ne_nil _ (lowerBetween_ne_nil [] c rest)

theorem getLast?_lowerAfter_concat (before text : Text) (c : Char) :
    (lowerAfter before (text ++ [c])).getLast? =
      (lowerBetween (text.reverse ++ before) c []).getLast? := by
  induction text generalizing before with
  | nil =>
    rw [List.nil_append, lowerAfter, lowerAfter, List.append_nil]
    rfl
  | cons d rest inductionHypothesis =>
    have behind : lowerAfter (d :: before) (rest ++ [c]) ≠ [] := by
      intro empty
      have last := inductionHypothesis (d :: before)
      rw [empty, List.getLast?_nil, eq_comm, List.getLast?_eq_none_iff] at last
      exact lowerBetween_ne_nil _ _ _ last
    rw [List.cons_append, lowerAfter, List.getLast?_append_of_ne_nil _ behind, inductionHypothesis,
      List.reverse_cons, List.append_assoc, List.singleton_append]

/-! ### Characters that lower alike -/

/-- Characters that lowering does not tell apart, neither in their own place nor as neighbours. -/
structure LowersAlike (c d : Char) : Prop where
  ignorable : isCaseIgnorable c = isCaseIgnorable d
  cased : isCased c = isCased d
  lowered : ∀ before rest, lowerBetween before c rest = lowerBetween before d rest

theorem LowersAlike.refl (c : Char) : LowersAlike c c := ⟨rfl, rfl, fun _ _ => rfl⟩

theorem nearestCased_cons (c : Char) (rest : Text) :
    nearestCased (c :: rest) = if isCaseIgnorable c then nearestCased rest else isCased c := by
  cases ignored : isCaseIgnorable c with
  | true => rw [nearestCased, List.dropWhile_cons_of_pos ignored, if_pos rfl, nearestCased]
  | false =>
    rw [nearestCased, List.dropWhile_cons_of_neg (Bool.eq_false_iff.mp ignored),
      if_neg Bool.false_ne_true]

theorem nearestCased_congr {ones others : Text} (alike : List.Forall₂ LowersAlike ones others) :
    nearestCased ones = nearestCased others := by
  induction alike with
  | nil => rfl
  | cons first _ inductionHypothesis =>
    rw [nearestCased_cons, nearestCased_cons, first.ignorable, first.cased, inductionHypothesis]

theorem lowerBetween_congr {before rest otherBefore otherRest : Text} (c : Char)
    (sameBefore : nearestCased before = nearestCased otherBefore)
    (sameRest : nearestCased rest = nearestCased otherRest) :
    lowerBetween before c rest = lowerBetween otherBefore c otherRest := by
  rw [lowerBetween, lowerBetween, sameBefore, sameRest]

theorem lowerAfter_congr {before otherBefore text other : Text}
    (alikeBefore : List.Forall₂ LowersAlike before otherBefore)
    (alike : List.Forall₂ LowersAlike text other) :
    lowerAfter before text = lowerAfter otherBefore other := by
  induction alike generalizing before otherBefore with
  | nil => rfl
  | cons first later inductionHypothesis =>
    rw [lowerAfter, lowerAfter, first.lowered,
      lowerBetween_congr _ (nearestCased_congr alikeBefore) (nearestCased_congr later),
      inductionHypothesis (.cons first alikeBefore)]

/-- One character may stand for another that lowers alike, whatever stands around it. -/
theorem lower_replace {c d : Char} (alike : LowersAlike c d) (before after : Text) :
    lower (before ++ c :: after) = lower (before ++ d :: after) := by
  refine lowerAfter_congr .nil (List.rel_append ?_ (.cons alike ?_))
  · exact List.forall₂_same.mpr fun e _ => LowersAlike.refl e
  · exact List.forall₂_same.mpr fun e _ => LowersAlike.refl e

theorem lowersAlike_of_plain {c d : Char} (ignorable : isCaseIgnorable c = isCaseIgnorable d)
    (cased : isCased c = isCased d) (plain : c ≠ '\u0130' ∧ c ≠ '\u03a3')
    (otherPlain : d ≠ '\u0130' ∧ d ≠ '\u03a3') (same : lowerChar c = lowerChar d) :
    LowersAlike c d := by
  refine ⟨ignorable, cased, fun before rest => ?_⟩
  rw [lowerBetween, lowerBetween, if_neg plain.1, if_neg plain.2, if_neg otherPlain.1,
    if_neg otherPlain.2, same]

/-! ### The Latin alphabet -/

/-- The character is one of the fifty-two letters of the Latin alphabet. -/
def IsLatin (c : Char) : Prop :=
  0x41 ≤ c.toNat ∧ c.toNat ≤ 0x5a ∨ 0x61 ≤ c.toNat ∧ c.toNat ≤ 0x7a

instance (c : Char) : Decidable (IsLatin c) := inferInstanceAs (Decidable (_ ∨ _))

theorem IsLatin.not_inRanges {c : Char} (latin : IsLatin c) {ranges : List (Nat × Nat)}
    (apart : ∀ range ∈ ranges,
      (range.2 < 0x41 ∨ 0x5a < range.1) ∧ (range.2 < 0x61 ∨ 0x7a < range.1)) :
    inRanges ranges c = false := by
  refine inRanges_eq_false_iff.mpr fun range member => ?_
  have outside := apart range member
  rw [IsLatin] at latin
  omega

theorem IsLatin.not_isCaseIgnorable {c : Char} (latin : IsLatin c) : isCaseIgnorable c = false :=
  latin.not_inRanges (by decide +kernel)

theorem IsLatin.not_isBlank {c : Char} (latin : IsLatin c) : isBlank c = false :=
  latin.not_inRanges (by decide)

theorem IsLatin.ne {c d : Char} (latin : IsLatin c) (notLatin : ¬ IsLatin d) : c ≠ d := by
  rintro rfl
  exact notLatin latin

/-- The capitals of the Latin alphabet, with what the table says about them and their small
letters. -/
theorem latin_capital : ∀ c ∈ (List.range 26).map fun n => Char.ofNat (0x41 + n),
    IsLatin c ∧ IsLatin c.toLower ∧ isCased c = isCased c.toLower ∧
      lowerChar c = lowerChar c.toLower :=
  List.all_iff_forall_prop.mp (by decide +kernel)

/-- `Char.toLower` changes the capitals of the Latin alphabet and nothing else, and a capital lowers
like its small letter. -/
theorem toLower_cases (c : Char) :
    c.toLower = c ∨ IsLatin c ∧ IsLatin c.toLower ∧ LowersAlike c c.toLower := by
  by_cases capital : c.val ≥ 'A'.val ∧ c.val ≤ 'Z'.val
  · right
    have starts : 0x41 ≤ c.toNat := capital.1
    have stops : c.toNat ≤ 0x5a := capital.2
    have isCode : Char.ofNat (0x41 + (c.toNat - 0x41)) = c := by
      rw [Nat.add_sub_cancel' starts, Char.ofNat_toNat]
    obtain ⟨latin, small, cased, same⟩ :=
      latin_capital c (List.mem_map.mpr ⟨c.toNat - 0x41, List.mem_range.mpr (by omega), isCode⟩)
    have plain {d : Char} (latin : IsLatin d) : d ≠ '\u0130' ∧ d ≠ '\u03a3' :=
      ⟨latin.ne (by decide), latin.ne (by decide)⟩
    refine ⟨latin, small, lowersAlike_of_plain ?_ cased (plain latin) (plain small) same⟩
    rw [latin.not_isCaseIgnorable, small.not_isCaseIgnorable]
  · exact Or.inl (dif_neg capital)

end IgniterLint.Text
