/-
This file says what the searches through a source text find. A quoted call and a class declaration
are described by how they are spelled, without a search; the function that tries a text at its front
succeeds exactly on what is spelled so. A scan is then a walk over the text that takes a call in one
step and any other character in one step, and everything about its result is proved along that walk:
what it finds is spelled as a call, lies in the text, and comes in order without overlaps.
-/

import Mathlib.Data.List.Infix
import Mathlib.Data.List.TakeWhile
import IgniterLint.Proofs.Text.LineTable
import IgniterLint.Source.ClassDeclaration
import IgniterLint.Source.QuotedCall

namespace IgniterLint

/-- A run of characters of one kind, up to where the kind changes. -/
theorem takeWhile_append_eq {kind : Char → Bool} {run rest : Text}
    (inside : ∀ c ∈ run, kind c = true) (stop : ∀ c, rest.head? = some c → kind c = false) :
    (run ++ rest).takeWhile kind = run := by
  rw [List.takeWhile_append_of_pos inside]
  cases rest with
  | nil => simp
  | cons c rest => rw [List.takeWhile_cons_of_neg (by simp [stop c rfl]), List.append_nil]

theorem dropWhile_append_eq {kind : Char → Bool} {run rest : Text}
    (inside : ∀ c ∈ run, kind c = true) (stop : ∀ c, rest.head? = some c → kind c = false) :
    (run ++ rest).dropWhile kind = rest := by
  rw [List.dropWhile_append_of_pos inside]
  cases rest with
  | nil => rfl
  | cons c rest => rw [List.dropWhile_cons_of_neg (by simp [stop c rfl])]

namespace QuotedCall

/-! ### Calls as they are spelled -/

/-- The text is one whole call of the opening, with the argument between two quotation marks. -/
def IsCall (opening argument call : Text) : Prop :=
  ∃ left right, isMark left = true ∧ isMark right = true ∧ argument ≠ [] ∧
    (∀ c ∈ argument, isMark c = false) ∧ call = opening ++ left :: (argument ++ [right, ')'])

namespace IsCall

variable {opening argument call : Text}

theorem length_eq (spelled : IsCall opening argument call) :
    call.length = lengthOf opening argument := by
  obtain ⟨left, right, _, _, _, _, rfl⟩ := spelled
  simp only [lengthOf, List.length_append, List.length_cons, List.length_nil]
  omega

theorem getLast?_eq (spelled : IsCall opening argument call) : call.getLast? = some ')' := by
  obtain ⟨left, right, _, _, _, _, rfl⟩ := spelled
  simp [List.getLast?_append, List.getLast?_cons]

theorem ne_nil (spelled : IsCall opening argument call) : call ≠ [] := by
  rintro rfl
  simpa using spelled.getLast?_eq

theorem head?_eq (spelled : IsCall opening argument call) (named : opening ≠ []) :
    call.head? = opening.head? := by
  obtain ⟨left, right, _, _, _, _, rfl⟩ := spelled
  exact List.head?_append_of_ne_nil opening named

end IsCall

/-- What stands in front of the first quotation mark, the mark, and what follows it. -/
theorem split_at_mark (rest tail : Text) (right : Char)
    (dropped : rest.dropWhile (fun c => !isMark c) = right :: tail) :
    isMark right = true ∧ rest = rest.takeWhile (fun c => !isMark c) ++ right :: tail := by
  constructor
  · have stops := List.head?_dropWhile_not (fun c => !isMark c) rest
    rw [dropped] at stops
    simpa using stops
  · rw [← dropped, List.takeWhile_append_dropWhile]

/-- A call is recognised at the front of a text exactly when one is spelled there. -/
theorem argumentAt?_eq_some_iff (opening text argument : Text) :
    argumentAt? opening text = some argument ↔
      ∃ call rest, IsCall opening argument call ∧ text = call ++ rest := by
  constructor
  · intro found
    unfold argumentAt? at found
    split at found
    · rename_i mark rest opened
      dsimp only at found
      split at found
      · rename_i right tail dropped
        split at found
        · rename_i marked
          obtain ⟨leftMark, filled⟩ := Bool.and_eq_true_iff.mp marked
          obtain ⟨rightMark, pieces⟩ := split_at_mark _ _ _ dropped
          obtain rfl := Option.some.inj found
          refine ⟨_, tail, ⟨mark, right, leftMark, rightMark, ?_, ?_, rfl⟩, ?_⟩
          · simpa using filled
          · intro c member
            simpa using List.mem_takeWhile_imp member
          · rw [(Text.after?_eq_some_iff opening text _).mp opened]
            conv_lhs => rw [pieces]
            simp
        · exact absurd found (by simp)
      · exact absurd found (by simp)
    · exact absurd found (by simp)
  · rintro ⟨call, rest, ⟨left, right, leftMark, rightMark, filled, unmarked, rfl⟩, rfl⟩
    have opened : Text.after? opening (opening ++ left :: (argument ++ [right, ')']) ++ rest) =
        some (left :: (argument ++ right :: ')' :: rest)) := by
      rw [Text.after?_eq_some_iff]
      simp
    have kept : ∀ c ∈ argument, (!isMark c) = true := by
      intro c member
      rw [unmarked c member, Bool.not_false]
    rw [argumentAt?, opened]
    simp [List.takeWhile_append_of_pos kept, List.dropWhile_append_of_pos kept, rightMark, leftMark,
      filled]

/-! ### The walk of a scan -/

theorem findFrom_call (opening argument call rest : Text) (offset : Nat)
    (spelled : IsCall opening argument call) :
    findFrom opening offset 0 (call ++ rest) =
      ⟨offset, argument, call.length⟩ :: findFrom opening (offset + call.length) 0 rest := by
  obtain ⟨c, tail, rfl⟩ := List.exists_cons_of_ne_nil spelled.ne_nil
  have found : argumentAt? opening (c :: (tail ++ rest)) = some argument :=
    (argumentAt?_eq_some_iff _ _ _).mpr ⟨c :: tail, rest, spelled, rfl⟩
  have rest_eq : (tail ++ rest).drop (lengthOf opening argument - 1) = rest := by
    rw [← spelled.length_eq, List.length_cons, Nat.add_sub_cancel, List.drop_left]
  rw [List.cons_append, findFrom, found]
  simp only
  rw [findFrom_skip, rest_eq, ← spelled.length_eq]
  simp only [List.length_cons, Nat.add_sub_cancel]
  rw [show offset + 1 + tail.length = offset + (tail.length + 1) by omega]

theorem findFrom_other (opening : Text) (c : Char) (rest : Text) (offset : Nat)
    (none : argumentAt? opening (c :: rest) = none) :
    findFrom opening offset 0 (c :: rest) = findFrom opening (offset + 1) 0 rest := by
  rw [findFrom, none]

/-- A text is walked like a scan walks it: over a whole call at a time, or over one character where
no call starts. -/
@[elab_as_elim]
theorem scanInduction (opening : Text) {motive : Text → Prop} (nil : motive [])
    (call : ∀ argument call rest, IsCall opening argument call → motive rest →
      motive (call ++ rest))
    (other : ∀ c rest, argumentAt? opening (c :: rest) = none → motive rest → motive (c :: rest))
    (text : Text) : motive text := by
  match text with
  | [] => exact nil
  | c :: rest =>
    cases found : argumentAt? opening (c :: rest) with
    | none => exact other c rest found (scanInduction opening nil call other rest)
    | some argument =>
      obtain ⟨whole, remaining, spelled, split⟩ := (argumentAt?_eq_some_iff _ _ _).mp found
      have shorter : remaining.length < (c :: rest).length := by
        rw [split, List.length_append]
        exact Nat.lt_add_of_pos_left (List.length_pos_iff.mpr spelled.ne_nil)
      rw [split]
      exact call argument whole remaining spelled (scanInduction opening nil call other remaining)
termination_by text.length
decreasing_by
  · exact Nat.lt_succ_self rest.length
  · exact shorter

/-! ### What a scan finds -/

/-- Every call found is spelled in the text, where the scan says. -/
theorem exists_split_of_mem_findFrom (opening : Text) (offset : Nat) (text : Text)
    (call : QuotedCall) (member : call ∈ findFrom opening offset 0 text) :
    ∃ before spelled after, text = before ++ (spelled ++ after) ∧
      IsCall opening call.argument spelled ∧ call.offset = offset + before.length ∧
      call.length = spelled.length := by
  induction text using scanInduction opening generalizing offset with
  | nil => simp [findFrom] at member
  | call argument first rest spelled inductionHypothesis =>
    rw [findFrom_call _ _ _ _ _ spelled, List.mem_cons] at member
    rcases member with rfl | member
    · exact ⟨[], first, rest, rfl, spelled, rfl, rfl⟩
    · obtain ⟨before, later, after, rfl, isCall, place, length⟩ := inductionHypothesis _ member
      refine ⟨first ++ before, later, after, by simp, isCall, ?_, length⟩
      rw [place, List.length_append, Nat.add_assoc]
  | other c rest none inductionHypothesis =>
    rw [findFrom_other _ _ _ _ none] at member
    obtain ⟨before, later, after, rfl, isCall, place, length⟩ := inductionHypothesis _ member
    refine ⟨c :: before, later, after, rfl, isCall, ?_, length⟩
    rw [place, List.length_cons]
    omega

/-- The calls found come in order, each behind the end of those before it. -/
theorem pairwise_findFrom (opening : Text) (offset : Nat) (text : Text) :
    (findFrom opening offset 0 text).Pairwise fun earlier later =>
      earlier.offset + earlier.length ≤ later.offset := by
  induction text using scanInduction opening generalizing offset with
  | nil => simp [findFrom]
  | call argument first rest spelled inductionHypothesis =>
    rw [findFrom_call _ _ _ _ _ spelled, List.pairwise_cons]
    refine ⟨fun later member => ?_, inductionHypothesis _⟩
    obtain ⟨before, _, _, _, _, place, _⟩ := exists_split_of_mem_findFrom _ _ _ _ member
    rw [place]
    exact Nat.le_add_right _ _
  | other c rest none inductionHypothesis =>
    rw [findFrom_other _ _ _ _ none]
    exact inductionHypothesis _

theorem exists_split_of_mem_findAll {opening text : Text} {call : QuotedCall}
    (member : call ∈ findAll opening text) :
    ∃ before spelled after, text = before ++ (spelled ++ after) ∧
      IsCall opening call.argument spelled ∧
      call.span = Span.ofLength before.length spelled.length := by
  obtain ⟨before, spelled, after, split, isCall, place, length⟩ :=
    exists_split_of_mem_findFrom opening 0 text call member
  refine ⟨before, spelled, after, split, isCall, ?_⟩
  rw [span, place, length, Nat.zero_add]

/-- The span of a call that was found covers the call, all of it and nothing else. -/
theorem isCall_slice {opening text : Text} {call : QuotedCall}
    (member : call ∈ findAll opening text) :
    IsCall opening call.argument (call.span.slice text) := by
  obtain ⟨before, spelled, after, rfl, isCall, place⟩ := exists_split_of_mem_findAll member
  rw [place, Span.slice_ofLength]
  exact isCall

/-- The opening words do not start inside a break. -/
def OpensWhole (opening : Text) : Prop := opening ≠ [] ∧ opening.head? ≠ some '\n'

/-- No end of a call that was found lies inside a break: the one stands in front of the opening
words, and the other behind a parenthesis. -/
theorem span_fits {opening text : Text} (opens : OpensWhole opening) {call : QuotedCall}
    (member : call ∈ findAll opening text) : call.span.Fits text := by
  obtain ⟨before, spelled, after, rfl, isCall, place⟩ := exists_split_of_mem_findAll member
  rw [place]
  refine Span.fits_ofLength before spelled after isCall.ne_nil ?_ ?_
  · rw [isCall.head?_eq opens.1]
    exact opens.2
  · rw [isCall.getLast?_eq]
    decide

/-- The spans of the calls found come in order and do not overlap. -/
theorem pairwise_span_findAll (opening text : Text) :
    (findAll opening text).Pairwise fun earlier later =>
      earlier.span.start < later.span.start ∧ earlier.span.stop ≤ later.span.start := by
  refine List.Pairwise.imp_of_mem ?_ (pairwise_findFrom opening 0 text)
  intro earlier later member _ behind
  obtain ⟨before, spelled, after, _, isCall, place⟩ := exists_split_of_mem_findAll member
  have filled := List.length_pos_iff.mpr isCall.ne_nil
  have length : earlier.length = spelled.length := by
    have lengths := congrArg Span.length place
    rwa [span, Span.length_ofLength, Span.length_ofLength] at lengths
  refine ⟨?_, behind⟩
  show earlier.offset < later.offset
  omega

end QuotedCall

namespace ClassDeclaration

/-! ### Declarations as they are spelled -/

/-- The text is one declaration: the keyword, blanks, and a name. -/
def IsDeclaration (declaration : Text) : Prop :=
  ∃ blanks name, blanks ≠ [] ∧ (∀ c ∈ blanks, Text.isBlank c = true) ∧ name ≠ [] ∧
    (∀ c ∈ name, isNameChar c = true) ∧ declaration = keyword ++ (blanks ++ name)

/-- No character may stand both in the name of a class and in front of it. -/
theorem isBlank_of_isNameChar (c : Char) (named : isNameChar c = true) :
    Text.isBlank c = false := by
  change ((decide (65 ≤ c.val ∧ c.val ≤ 90) || (decide (97 ≤ c.val) && decide (c.val ≤ 122))) ||
    (decide (48 ≤ c.val) && decide (c.val ≤ 57)) || c == '_') = true at named
  simp only [Bool.or_eq_true, Bool.and_eq_true, decide_eq_true_eq, beq_iff_eq,
    UInt32.le_iff_toNat_le] at named
  have code : c.val.toNat = c.toNat := rfl
  rcases named with ((upper | lower) | digit) | rfl
  · have bounds : 65 ≤ c.toNat ∧ c.toNat ≤ 90 := by simpa [code] using upper
    simp [Text.isBlank, Text.inRanges, Text.blankRanges]
    omega
  · have bounds : 97 ≤ c.toNat ∧ c.toNat ≤ 122 := by simpa [code] using lower
    simp [Text.isBlank, Text.inRanges, Text.blankRanges]
    omega
  · have bounds : 48 ≤ c.toNat ∧ c.toNat ≤ 57 := by simpa [code] using digit
    simp [Text.isBlank, Text.inRanges, Text.blankRanges]
    omega
  · decide

namespace IsDeclaration

variable {declaration : Text}

theorem head?_eq (spelled : IsDeclaration declaration) : declaration.head? = some 'c' := by
  obtain ⟨blanks, name, _, _, _, _, rfl⟩ := spelled
  rfl

theorem ne_nil (spelled : IsDeclaration declaration) : declaration ≠ [] := by
  rintro rfl
  simpa using spelled.head?_eq

theorem getLast?_ne (spelled : IsDeclaration declaration) : declaration.getLast? ≠ some '\r' := by
  obtain ⟨blanks, name, _, _, filled, named, rfl⟩ := spelled
  rw [← List.append_assoc, List.getLast?_append_of_ne_nil _ filled]
  intro last
  exact absurd (named '\r' (List.mem_of_getLast? last)) (by decide)

end IsDeclaration

/-- A declaration is recognised at the front of a text exactly when one is spelled there, and it
reaches to where its name ends. -/
theorem lengthAt?_eq_some_iff (text : Text) (length : Nat) :
    lengthAt? text = some length ↔
      ∃ declaration rest, text = declaration ++ rest ∧ IsDeclaration declaration ∧
        length = declaration.length ∧ ∀ c, rest.head? = some c → isNameChar c = false := by
  constructor
  · intro found
    unfold lengthAt? at found
    split at found
    · exact absurd found (by simp)
    · rename_i rest opened
      dsimp only at found
      split at found
      · exact absurd found (by simp)
      · rename_i filled
        rw [Bool.or_eq_true, not_or, List.isEmpty_iff, List.isEmpty_iff] at filled
        refine ⟨keyword ++ (rest.takeWhile Text.isBlank ++
          (rest.dropWhile Text.isBlank).takeWhile isNameChar),
          (rest.dropWhile Text.isBlank).dropWhile isNameChar, ?_, ?_, ?_, ?_⟩
        · rw [(Text.after?_eq_some_iff _ _ _).mp opened]
          simp
        · exact ⟨_, _, filled.1, fun c member => List.mem_takeWhile_imp member, filled.2,
            fun c member => List.mem_takeWhile_imp member, rfl⟩
        · rw [← Option.some.inj found, List.length_append, List.length_append, Nat.add_assoc]
        · intro c next
          have stops := List.head?_dropWhile_not isNameChar (rest.dropWhile Text.isBlank)
          rw [next] at stops
          simpa using stops
  · rintro ⟨declaration, rest, rfl, ⟨blanks, name, someBlank, blank, someName, named, rfl⟩, rfl,
      stop⟩
    have opened : Text.after? keyword (keyword ++ (blanks ++ name) ++ rest) =
        some (blanks ++ (name ++ rest)) := by
      rw [Text.after?_eq_some_iff]
      simp
    have blanksEnd : ∀ c, (name ++ rest).head? = some c → Text.isBlank c = false := by
      intro c next
      rw [List.head?_append_of_ne_nil name someName] at next
      exact isBlank_of_isNameChar c (named c (List.mem_of_head? next))
    rw [lengthAt?, opened]
    dsimp only
    rw [takeWhile_append_eq blank blanksEnd, dropWhile_append_eq blank blanksEnd,
      takeWhile_append_eq named stop]
    simp [someBlank, someName, Nat.add_assoc]

/-- Where a declaration is spelled, one is recognised. -/
theorem isSome_lengthAt? (declaration rest : Text) (spelled : IsDeclaration declaration) :
    (lengthAt? (declaration ++ rest)).isSome = true := by
  obtain ⟨blanks, name, someBlank, blank, someName, named, rfl⟩ := spelled
  -- The name may go on behind the part that is spelled here.
  have recognised : lengthAt? (keyword ++ (blanks ++ name) ++ rest) =
      some (keyword ++ (blanks ++ (name ++ rest.takeWhile isNameChar))).length := by
    rw [lengthAt?_eq_some_iff]
    refine ⟨_, rest.dropWhile isNameChar, ?_,
      ⟨blanks, name ++ rest.takeWhile isNameChar, someBlank, blank, ?_, ?_, rfl⟩, rfl, ?_⟩
    · simp
    · simp [someName]
    · intro c member
      rcases List.mem_append.mp member with member | member
      · exact named c member
      · exact List.mem_takeWhile_imp member
    · intro c next
      have stops := List.head?_dropWhile_not isNameChar rest
      rw [next] at stops
      simpa using stops
  rw [recognised, Option.isSome_some]

/-! ### The search -/

/-- The declaration that a search finds is recognised where it starts, and none is before that. -/
theorem exists_of_findFrom?_eq_some (offset : Nat) (text : Text) (span : Span)
    (found : findFrom? offset text = some span) :
    ∃ before after length, text = before ++ after ∧ lengthAt? after = some length ∧
      span = Span.ofLength (offset + before.length) length ∧
      ∀ earlier < before.length, lengthAt? (text.drop earlier) = none := by
  induction text generalizing offset with
  | nil => exact absurd found (by simp [findFrom?])
  | cons c rest inductionHypothesis =>
    rw [findFrom?] at found
    cases here : lengthAt? (c :: rest) with
    | some length =>
      rw [here] at found
      exact ⟨[], c :: rest, length, rfl, here, (Option.some.inj found).symm,
        fun earlier before => absurd before (Nat.not_lt_zero earlier)⟩
    | none =>
      rw [here] at found
      obtain ⟨before, after, length, rfl, there, place, first⟩ := inductionHypothesis _ found
      refine ⟨c :: before, after, length, rfl, there, ?_, ?_⟩
      · rw [place, List.length_cons, Nat.add_assoc, Nat.add_comm 1]
      · intro earlier bound
        cases earlier with
        | zero => exact here
        | succ earlier => exact first earlier (Nat.lt_of_succ_lt_succ bound)

/-- A search that finds nothing has been through a text without any declaration. -/
theorem not_isDeclaration_of_findFrom?_eq_none (offset : Nat) (text : Text)
    (nothing : findFrom? offset text = none) (piece : Text) (within : piece <:+: text) :
    ¬ IsDeclaration piece := by
  intro spelled
  induction text generalizing offset with
  | nil => exact spelled.ne_nil (List.eq_nil_of_infix_nil within)
  | cons c rest inductionHypothesis =>
    rw [findFrom?] at nothing
    cases here : lengthAt? (c :: rest) with
    | some length => simp [here] at nothing
    | none =>
      rw [here] at nothing
      rcases List.infix_cons_iff.mp within with front | later
      · obtain ⟨after, split⟩ := front
        have recognised := isSome_lengthAt? piece after spelled
        rw [split, here] at recognised
        exact absurd recognised (by simp)
      · exact inductionHypothesis _ nothing later

/-- The search gives the span of a declaration, or there is none in the text. -/
theorem find_cases (text : Text) :
    (∃ before declaration after, text = before ++ (declaration ++ after) ∧
      IsDeclaration declaration ∧ find text = Span.ofLength before.length declaration.length) ∨
    find text = Span.empty 0 ∧ ∀ piece, piece <:+: text → ¬ IsDeclaration piece := by
  rw [find]
  cases found : findFrom? 0 text with
  | none => exact Or.inr ⟨rfl, not_isDeclaration_of_findFrom?_eq_none 0 text found⟩
  | some span =>
    obtain ⟨before, _, length, rfl, recognised, rfl, _⟩ :=
      exists_of_findFrom?_eq_some 0 text _ found
    obtain ⟨declaration, after, rfl, spelled, rfl, _⟩ := (lengthAt?_eq_some_iff _ _).mp recognised
    refine Or.inl ⟨before, declaration, after, rfl, spelled, ?_⟩
    rw [Option.getD_some, Nat.zero_add]

/-- No end of the span of the search lies inside a break. -/
theorem find_fits (text : Text) : (find text).Fits text := by
  rcases find_cases text with ⟨before, declaration, after, rfl, spelled, place⟩ | ⟨place, _⟩
  · rw [place]
    refine Span.fits_ofLength before declaration after spelled.ne_nil ?_ spelled.getLast?_ne
    rw [spelled.head?_eq]
    decide
  · rw [place]
    exact Span.fits_empty text

end ClassDeclaration

end IgniterLint
