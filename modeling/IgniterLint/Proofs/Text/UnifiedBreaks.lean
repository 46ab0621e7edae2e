/-
This file takes the spelling of line breaks out of a text. Unifying a text writes every break as one
line feed. The cursor does not notice: it stands in the same line and column behind a text and
behind the unified text. Nor does a search for a word without breaks, because every cut of the
unified text comes from a cut of the text. Lines joined by any one spelling of the break unify to
the same text, which is how texts of different spellings are compared.
-/

import IgniterLint.Proofs.Text.LineTable

namespace IgniterLint

namespace Text

/-! ### Unifying breaks -/

/-- The text with every break written as one line feed. -/
def unifyBreaks : Text → Text
  | [] => []
  | '\r' :: '\n' :: rest => '\n' :: unifyBreaks rest
  | c :: rest => (if c = '\r' then '\n' else c) :: unifyBreaks rest

/-- The text has no break in it. -/
def Unbroken (text : Text) : Prop := ∀ c ∈ text, c ≠ '\r' ∧ c ≠ '\n'

instance (text : Text) : Decidable (Unbroken text) := List.decidableBAll _ text

/-- The spellings of a break. -/
def breakSpellings : List Text := ["\n".toList, "\r\n".toList, "\r".toList]

theorem unifyBreaks_pair (rest : Text) :
    unifyBreaks ('\r' :: '\n' :: rest) = '\n' :: unifyBreaks rest := by
  rw [unifyBreaks]

theorem unifyBreaks_cons (c : Char) (rest : Text) (apart : ¬ CutsBreak [c] rest) :
    unifyBreaks (c :: rest) = (if c = '\r' then '\n' else c) :: unifyBreaks rest := by
  rw [unifyBreaks]
  rintro tail rfl rfl
  exact apart ⟨rfl, rfl⟩

theorem unifyBreaks_cons_of_ne (c : Char) (rest : Text) (other : c ≠ '\r') :
    unifyBreaks (c :: rest) = c :: unifyBreaks rest := by
  rw [unifyBreaks_cons c rest fun cut => other ((cutsBreak_singleton_iff c rest).mp cut).1,
    if_neg other]

theorem Unbroken.tail {c : Char} {text : Text} (unbroken : Unbroken (c :: text)) :
    Unbroken text :=
  fun d member => unbroken d (List.mem_cons_of_mem c member)

theorem unbroken_append_iff (before after : Text) :
    Unbroken (before ++ after) ↔ Unbroken before ∧ Unbroken after :=
  List.forall_mem_append

theorem Unbroken.not_cutsBreak {before : Text} (unbroken : Unbroken before) (after : Text) :
    ¬ CutsBreak before after :=
  fun cut => (unbroken '\r' (List.mem_of_getLast? cut.1)).1 rfl

theorem unifyBreaks_append (before after : Text) (whole : ¬ CutsBreak before after) :
    unifyBreaks (before ++ after) = unifyBreaks before ++ unifyBreaks after := by
  induction before using breakInduction with
  | nil => rfl
  | pair rest inductionHypothesis =>
    rw [List.cons_append, List.cons_append, unifyBreaks_pair, unifyBreaks_pair, List.cons_append,
      inductionHypothesis fun cut => whole ((cut.cons _).cons _)]
  | char c rest apart inductionHypothesis =>
    have apartWhole := not_cutsBreak_append apart whole
    rw [List.cons_append, unifyBreaks_cons _ _ apartWhole, unifyBreaks_cons _ _ apart,
      List.cons_append, inductionHypothesis fun cut => whole (cut.cons _)]

theorem unifyBreaks_of_unbroken (text : Text) (unbroken : Unbroken text) :
    unifyBreaks text = text := by
  induction text with
  | nil => rfl
  | cons c rest inductionHypothesis =>
    rw [unifyBreaks_cons_of_ne c rest (unbroken c List.mem_cons_self).1,
      inductionHypothesis unbroken.tail]

theorem unbroken_enclosed_iff (opening inner ending : Text) (openingUnbroken : Unbroken opening)
    (endingUnbroken : Unbroken ending) :
    Unbroken (opening ++ inner ++ ending) ↔ Unbroken inner := by
  rw [unbroken_append_iff, unbroken_append_iff]
  exact ⟨fun whole => whole.1.2, fun unbroken => ⟨⟨openingUnbroken, unbroken⟩, endingUnbroken⟩⟩

/-- What stands between texts without breaks is unified by itself. -/
theorem unifyBreaks_enclosed (opening inner ending : Text) (openingUnbroken : Unbroken opening)
    (endingUnbroken : Unbroken ending) :
    unifyBreaks (opening ++ inner ++ ending) = opening ++ unifyBreaks inner ++ ending := by
  have endWhole : ¬ CutsBreak (opening ++ inner) ending :=
    fun cut => (endingUnbroken '\n' (List.mem_of_head? cut.2)).2 rfl
  rw [unifyBreaks_append _ _ endWhole, unifyBreaks_append _ _ (openingUnbroken.not_cutsBreak inner),
    unifyBreaks_of_unbroken _ openingUnbroken, unifyBreaks_of_unbroken _ endingUnbroken]

/-- No break goes missing: a text whose unified form is without breaks is without breaks. -/
theorem unbroken_of_unifyBreaks (text : Text) (unbroken : Unbroken (unifyBreaks text)) :
    Unbroken text := by
  induction text using breakInduction with
  | nil => exact unbroken
  | pair rest =>
    rw [unifyBreaks_pair] at unbroken
    exact absurd rfl (unbroken '\n' List.mem_cons_self).2
  | char c rest apart inductionHypothesis =>
    rw [unifyBreaks_cons _ _ apart] at unbroken
    have here := unbroken _ List.mem_cons_self
    have plain : c ≠ '\r' := by
      intro isReturn
      rw [if_pos isReturn] at here
      exact here.2 rfl
    rw [if_neg plain] at here
    intro d member
    rcases List.mem_cons.mp member with rfl | member
    · exact here
    · exact inductionHypothesis unbroken.tail d member

theorem mem_unifyBreaks {c : Char} {text : Text} (member : c ∈ unifyBreaks text) :
    c = '\n' ∨ c ∈ text := by
  induction text using breakInduction with
  | nil => exact absurd member List.not_mem_nil
  | pair rest inductionHypothesis =>
    rw [unifyBreaks_pair, List.mem_cons] at member
    rcases member with isFeed | member
    · exact Or.inl isFeed
    · exact (inductionHypothesis member).imp_right fun later => by simp [later]
  | char d rest apart inductionHypothesis =>
    rw [unifyBreaks_cons _ _ apart, List.mem_cons] at member
    rcases member with here | member
    · split at here
      · exact Or.inl here
      · exact Or.inr (by simp [here])
    · exact (inductionHypothesis member).imp_right (List.mem_cons_of_mem d)

theorem mem_unifyBreaks_of_ne {c : Char} {text : Text} (member : c ∈ text) (other : c ≠ '\r') :
    c ∈ unifyBreaks text := by
  induction text using breakInduction with
  | nil => exact absurd member List.not_mem_nil
  | pair rest inductionHypothesis =>
    rw [unifyBreaks_pair]
    simp only [List.mem_cons, other, false_or] at member
    rcases member with isFeed | member
    · exact isFeed ▸ List.mem_cons_self
    · exact List.mem_cons_of_mem _ (inductionHypothesis member)
  | char d rest apart inductionHypothesis =>
    rw [unifyBreaks_cons _ _ apart]
    rcases List.mem_cons.mp member with rfl | member
    · rw [if_neg other]
      exact List.mem_cons_self
    · exact List.mem_cons_of_mem _ (inductionHypothesis member)

theorem unifyBreaks_ne_nil {text : Text} (filled : text ≠ []) : unifyBreaks text ≠ [] := by
  cases text using breakInduction with
  | nil => exact absurd rfl filled
  | pair rest => simp [unifyBreaks_pair]
  | char c rest apart => simp [unifyBreaks_cons _ _ apart]

theorem length_unifyBreaks_singleton (c : Char) : (unifyBreaks [c]).length = 1 := by
  rw [unifyBreaks_cons _ _ (by simp [CutsBreak])]
  rfl

theorem head?_unifyBreaks (text : Text) :
    (unifyBreaks text).head? = text.head?.map fun c => if c = '\r' then '\n' else c := by
  cases text using breakInduction with
  | nil => rfl
  | pair rest => rw [unifyBreaks_pair]; rfl
  | char c rest apart => rw [unifyBreaks_cons _ _ apart]; rfl

theorem return_notMem_unifyBreaks (text : Text) : '\r' ∉ unifyBreaks text := by
  induction text using breakInduction with
  | nil => exact List.not_mem_nil
  | pair rest inductionHypothesis =>
    rw [unifyBreaks_pair, List.mem_cons, not_or]
    exact ⟨by decide, inductionHypothesis⟩
  | char c rest apart inductionHypothesis =>
    rw [unifyBreaks_cons _ _ apart, List.mem_cons, not_or]
    refine ⟨?_, inductionHypothesis⟩
    split
    · decide
    · next other => exact Ne.symm other

theorem not_cutsBreak_unifyBreaks (before after : Text) :
    ¬ CutsBreak (unifyBreaks before) after :=
  fun cut => return_notMem_unifyBreaks before (List.mem_of_getLast? cut.1)

/-- Wherever the unified text is cut, the text can be cut too. -/
theorem exists_split_of_unifyBreaks (text front back : Text)
    (split : unifyBreaks text = front ++ back) :
    ∃ before after, text = before ++ after ∧ ¬ CutsBreak before after ∧
      unifyBreaks before = front ∧ unifyBreaks after = back := by
  induction text using breakInduction generalizing front with
  | nil =>
    obtain ⟨rfl, rfl⟩ := List.append_eq_nil_iff.mp split.symm
    exact ⟨[], [], rfl, not_cutsBreak_nil [], rfl, rfl⟩
  | pair rest inductionHypothesis =>
    cases front with
    | nil => exact ⟨[], '\r' :: '\n' :: rest, rfl, not_cutsBreak_nil _, rfl, split⟩
    | cons c front =>
      rw [unifyBreaks_pair, List.cons_append, List.cons.injEq] at split
      obtain ⟨before, after, rfl, whole, rfl, rfl⟩ := inductionHypothesis front split.2
      refine ⟨'\r' :: '\n' :: before, after, rfl, ?_, by rw [unifyBreaks_pair, split.1], rfl⟩
      rintro ⟨isReturn, startsFeed⟩
      cases before with
      | nil => exact absurd isReturn (by decide)
      | cons d before =>
        rw [List.getLast?_cons_cons, List.getLast?_cons_cons] at isReturn
        exact whole ⟨isReturn, startsFeed⟩
  | char c rest apart inductionHypothesis =>
    cases front with
    | nil => exact ⟨[], c :: rest, rfl, not_cutsBreak_nil _, rfl, split⟩
    | cons d front =>
      rw [unifyBreaks_cons _ _ apart, List.cons_append, List.cons.injEq] at split
      obtain ⟨before, after, rfl, whole, rfl, rfl⟩ := inductionHypothesis front split.2
      have apartHere : ¬ CutsBreak [c] before := by
        rintro ⟨isReturn, startsFeed⟩
        refine apart ⟨isReturn, ?_⟩
        rw [List.head?_append, startsFeed, Option.some_or]
      refine ⟨c :: before, after, rfl, ?_, by rw [unifyBreaks_cons _ _ apartHere, split.1], rfl⟩
      rintro ⟨isReturn, startsFeed⟩
      cases before with
      | nil => exact apart ⟨isReturn, startsFeed⟩
      | cons e before =>
        rw [List.getLast?_cons_cons] at isReturn
        exact whole ⟨isReturn, startsFeed⟩

/-- A part of the unified text without breaks is the part of the text that it came from. -/
theorem eq_of_unifyBreaks_eq (text word : Text) (unified : unifyBreaks text = word)
    (unbroken : Unbroken word) : text = word := by
  have plain : Unbroken text := unbroken_of_unifyBreaks text (by rw [unified]; exact unbroken)
  rw [← unified, unifyBreaks_of_unbroken text plain]

/-! ### What does not notice -/

/-- The cursor stands in the same line and column behind a text and behind the unified text. -/
theorem past_unifyBreaks (position : Position) (text : Text) :
    position.past (unifyBreaks text) = position.past text := by
  induction text using breakInduction generalizing position with
  | nil => rfl
  | pair rest inductionHypothesis =>
    rw [unifyBreaks_pair, Position.past_cons _ _ _ (by simp [CutsBreak]), Position.past_pair,
      if_pos (Or.inr rfl), inductionHypothesis]
  | char c rest apart inductionHypothesis =>
    rw [unifyBreaks_cons _ _ apart, Position.past_cons _ _ _ apart]
    by_cases isReturn : c = '\r'
    · rw [if_pos isReturn, Position.past_cons _ _ _ (by simp [CutsBreak]), if_pos (Or.inr rfl),
        if_pos (Or.inl isReturn), inductionHypothesis]
    · rw [if_neg isReturn, Position.past_cons _ _ _ (by simp [CutsBreak, isReturn]),
        inductionHypothesis]

/-- A word without breaks occurs in a text exactly when it occurs in the unified text. -/
theorem occursIn_unifyBreaks (word : Text) (unbroken : Unbroken word) (filled : word ≠ [])
    (text : Text) : occursIn word (unifyBreaks text) = occursIn word text := by
  rw [Bool.eq_iff_iff, occursIn_iff, occursIn_iff]
  constructor
  · rintro ⟨front, back, split⟩
    obtain ⟨before, after, rfl, _, unifiedBefore, _⟩ :=
      exists_split_of_unifyBreaks text _ _ split.symm
    obtain ⟨start, found, rfl, _, _, unifiedFound⟩ :=
      exists_split_of_unifyBreaks before _ _ unifiedBefore
    obtain rfl := eq_of_unifyBreaks_eq found word unifiedFound unbroken
    exact ⟨start, after, rfl⟩
  · rintro ⟨before, after, rfl⟩
    have frontWhole : ¬ CutsBreak before (word ++ after) := by
      rintro ⟨_, startsFeed⟩
      rw [List.head?_append_of_ne_nil word filled] at startsFeed
      exact (unbroken '\n' (List.mem_of_head? startsFeed)).2 rfl
    refine ⟨unifyBreaks before, unifyBreaks after, ?_⟩
    rw [List.append_assoc, List.append_assoc, unifyBreaks_append _ _ frontWhole,
      unifyBreaks_append _ _ (unbroken.not_cutsBreak after), unifyBreaks_of_unbroken word unbroken]

/-! ### Joined lines -/

theorem head?_joinWith_return (lines : List Text) (unbroken : ∀ line ∈ lines, Unbroken line) :
    (joinWith "\r".toList lines).head? ≠ some '\n' := by
  intro startsFeed
  match lines with
  | [] => exact absurd startsFeed (by simp [joinWith])
  | [last] =>
    exact (unbroken last List.mem_cons_self '\n' (List.mem_of_head? startsFeed)).2 rfl
  | [] :: second :: rest => exact absurd startsFeed (by simp [joinWith])
  | (c :: tail) :: second :: rest =>
    have isFeed : c = '\n' := Option.some.inj startsFeed
    exact (unbroken (c :: tail) List.mem_cons_self c List.mem_cons_self).2 isFeed

/-- Whatever the spelling, a break does not run into the lines behind it. -/
theorem not_cutsBreak_joinWith (separator : Text) (spelled : separator ∈ breakSpellings)
    (lines : List Text) (unbroken : ∀ line ∈ lines, Unbroken line) :
    ¬ CutsBreak separator (joinWith separator lines) := by
  rintro ⟨isReturn, startsFeed⟩
  simp only [breakSpellings, List.mem_cons, List.not_mem_nil, or_false] at spelled
  rcases spelled with rfl | rfl | rfl
  · exact absurd isReturn (by decide)
  · exact absurd isReturn (by decide)
  · exact head?_joinWith_return lines unbroken startsFeed

/-- Lines joined by any spelling of the break unify to the lines joined by line feeds. -/
theorem unifyBreaks_joinWith (separator : Text) (spelled : separator ∈ breakSpellings)
    (lines : List Text) (unbroken : ∀ line ∈ lines, Unbroken line) :
    unifyBreaks (joinWith separator lines) = joinWith "\n".toList lines := by
  have unified : unifyBreaks separator = "\n".toList := by
    simp only [breakSpellings, List.mem_cons, List.not_mem_nil, or_false] at spelled
    rcases spelled with rfl | rfl | rfl <;> rfl
  induction lines using joinWith.induct with
  | case1 => rfl
  | case2 last => exact unifyBreaks_of_unbroken last (unbroken last List.mem_cons_self)
  | case3 first second rest inductionHypothesis =>
    have firstUnbroken := unbroken first List.mem_cons_self
    have restUnbroken : ∀ line ∈ second :: rest, Unbroken line :=
      fun line member => unbroken line (List.mem_cons_of_mem first member)
    rw [joinWith, joinWith, List.append_assoc, List.append_assoc,
      unifyBreaks_append _ _ (firstUnbroken.not_cutsBreak _),
      unifyBreaks_append _ _ (not_cutsBreak_joinWith separator spelled _ restUnbroken),
      unifyBreaks_of_unbroken _ firstUnbroken, unified, inductionHypothesis restUnbroken]

end Text

end IgniterLint
