/-
This file says how templates are written from pieces and what filling makes of them. A piece is text
to copy or a field for the value. Text is written with every brace doubled, and a field between
braces of its own, so that the pieces can stand next to each other in any order: whatever follows, a
piece is read back and the reading goes on behind it.

From that, filling a template that is written is filling its pieces one by one. The value only turns
up in what they give, and is not read again.
-/

import IgniterLint.Proofs.Template.Layout
import IgniterLint.Template

namespace IgniterLint.Template

/-- A piece of a template: text, or a field for the value, perhaps with the conversion to text and
perhaps with a layout. -/
inductive Piece where
  | literal (text : Text)
  | field (converted : Bool) (layout : Option TextLayout)
deriving DecidableEq, Repr

/-- Text with every brace doubled. -/
def doubled (text : Text) : Text := text.flatMap fun c => if c = '{' ∨ c = '}' then [c, c] else [c]

namespace Piece

/-- What stands behind the opening brace of a field. -/
def bodyWritten (converted : Bool) (layout : Option TextLayout) : Text :=
  valueName ++ (if converted then "!s".toList else []) ++
    layout.elim [] (fun given => ':' :: given.written) ++ ['}']

/-- The notation of the piece. -/
def written : Piece → Text
  | literal text => doubled text
  | field converted layout => '{' :: bodyWritten converted layout

/-- What the piece stands for: its text, or the value in its layout. -/
def render (value : Text) : Piece → Text
  | literal text => text
  | field _ layout => layout.elim value fun given => given.render value

/-- The numbers in the layout of the piece can be read, if it has one. -/
def Readable : Piece → Prop
  | literal _ => True
  | field _ layout => ∀ given ∈ layout, given.Readable

/-- There is memory for the piece, as far as its layout asks for any. -/
def Held (memory : Nat) : Piece → Prop
  | literal _ => True
  | field _ layout => ∀ given ∈ layout, given.Held memory

instance : DecidablePred Readable
  | literal _ => inferInstanceAs (Decidable True)
  | field _ layout => inferInstanceAs (Decidable (∀ given ∈ layout, given.Readable))

instance (memory : Nat) : DecidablePred (Held memory)
  | literal _ => inferInstanceAs (Decidable True)
  | field _ layout => inferInstanceAs (Decidable (∀ given ∈ layout, given.Held memory))

/-- The piece filled with the value. -/
def filled (memory : Nat) (value : Text) : Piece → Except TemplateFault Text
  | literal text => .ok text
  | field _ layout =>
    layout.elim (.ok value) fun given => Layout.apply memory given.written value

end Piece

/-- A template of these pieces. -/
def write (pieces : List Piece) : Text := pieces.flatMap (·.written)

/-- What a template of these pieces stands for. -/
def render (value : Text) (pieces : List Piece) : Text := pieces.flatMap (·.render value)

/-! ### Reading pieces -/

theorem scriptAfter_cons_of_plain {c : Char} (notOpening : c ≠ '{') (notClosing : c ≠ '}')
    (rest : Text) : scriptAfter 0 (c :: rest) = .literal c (scriptAfter 0 rest) := by
  rw [scriptAfter.eq_def]
  dsimp only
  rw [if_neg notOpening, if_neg notClosing]

/-- Doubled text is read as the text itself, and reading goes on behind it. -/
theorem scriptAfter_doubled (text rest : Text) :
    scriptAfter 0 (doubled text ++ rest) = text.foldr .literal (scriptAfter 0 rest) := by
  induction text with
  | nil => rfl
  | cons c text inductionHypothesis =>
    rw [doubled, List.flatMap_cons, ← doubled, List.foldr_cons, ← inductionHypothesis]
    -- A doubled brace is read whole, whatever stands behind it.
    by_cases opening : c = '{'
    · subst opening
      rfl
    by_cases closing : c = '}'
    · subst closing
      rfl
    rw [if_neg (not_or.mpr ⟨opening, closing⟩), List.singleton_append, List.cons_append,
      scriptAfter_cons_of_plain opening closing]

theorem readLayout_append {layout : Text} (unbraced : ∀ c ∈ layout, c ≠ '{' ∧ c ≠ '}')
    (rest : Text) : readLayout 0 (layout ++ '}' :: rest) = .ok layout := by
  induction layout with
  | nil => rfl
  | cons c layout inductionHypothesis =>
    rw [List.forall_mem_cons] at unbraced
    rw [List.cons_append, readLayout, if_neg unbraced.1.1, if_neg unbraced.1.2,
      inductionHypothesis unbraced.2]
    rfl

/-- The field that is read where one is written. -/
def Piece.asked (converted : Bool) (layout : Option TextLayout) : Field where
  name := valueName
  conversion := if converted then some 's' else none
  layout := layout.elim [] (·.written)

theorem readName_valueName {ending : Char} (ends : ending = '}' ∨ ending = ':' ∨ ending = '!')
    (rest : Text) :
    readName false (valueName ++ ending :: rest) = .ok (valueName, ending, rest) := by
  rcases ends with rfl | rfl | rfl <;> rfl

theorem readField_bodyWritten (converted : Bool) (layout : Option TextLayout) (rest : Text) :
    readField (Piece.bodyWritten converted layout ++ rest) =
      .ok (Piece.asked converted layout, (Piece.bodyWritten converted layout).length) := by
  cases layout with
  | none => cases converted <;> rfl
  | some given =>
    have read : readLayout 0 (given.written ++ '}' :: rest) = .ok given.written :=
      readLayout_append (fun c => given.not_brace_of_mem_written) rest
    have split : Piece.bodyWritten converted (some given) ++ rest =
        valueName ++ ((if converted then "!s".toList else []) ++
          ':' :: (given.written ++ '}' :: rest)) := by
      simp [Piece.bodyWritten]
    have length : (Piece.bodyWritten converted (some given)).length =
        if converted then valueName.length + 1 + (given.written.length + 3)
        else valueName.length + given.written.length + 2 := by
      cases converted <;> simp [Piece.bodyWritten] <;> omega
    rw [split, length, readField]
    cases converted with
    | false =>
      rw [if_neg Bool.false_ne_true, List.nil_append, readName_valueName (Or.inr (Or.inl rfl)),
        ok_bind]
      dsimp only
      rw [if_neg (by decide), if_pos rfl, read]
      rfl
    | true =>
      have spelled : "!s".toList ++ ':' :: (given.written ++ '}' :: rest) =
          '!' :: 's' :: ':' :: (given.written ++ '}' :: rest) := rfl
      rw [if_pos rfl, spelled, readName_valueName (Or.inr (Or.inr rfl)), ok_bind]
      dsimp only
      rw [if_pos rfl, readConversion, if_neg (by decide), if_pos rfl, read]
      rfl

theorem scriptAfter_opening {next : Char} {text : Text} {field : Field} {length : Nat}
    (starts : text.head? = some next) (single : next ≠ '{')
    (read : readField text = .ok (field, length)) :
    scriptAfter 0 ('{' :: text) = .field field (scriptAfter 0 (text.drop length)) := by
  obtain ⟨rest, rfl⟩ := List.head?_eq_some_iff.mp starts
  rw [← scriptAfter_skip, scriptAfter.eq_def]
  dsimp only
  rw [if_pos rfl, if_neg single, read]

/-- A field is read where it is written, and reading goes on behind it. -/
theorem scriptAfter_field (converted : Bool) (layout : Option TextLayout) (rest : Text) :
    scriptAfter 0 ((Piece.field converted layout).written ++ rest) =
      .field (Piece.asked converted layout) (scriptAfter 0 rest) := by
  have starts : (Piece.bodyWritten converted layout ++ rest).head? = some 'n' := rfl
  rw [Piece.written, List.cons_append,
    scriptAfter_opening starts (by decide) (readField_bodyWritten converted layout rest),
    List.drop_left]

theorem follow_foldr_literal (fill : Field → Except TemplateFault Text) (text : Text)
    (next : Script) :
    (text.foldr .literal next).follow fill = (do return text ++ (← next.follow fill)) := by
  induction text with
  | nil =>
    rw [List.foldr_nil]
    cases next.follow fill <;> rfl
  | cons c text inductionHypothesis =>
    rw [List.foldr_cons, Script.follow, inductionHypothesis]
    cases next.follow fill <;> rfl

/-! ### Filling pieces -/

theorem lay_text (memory : Nat) (layout value : Text) :
    lay memory layout (.text value) = Layout.apply memory layout value := by
  cases layout with
  | nil =>
    -- An empty notation is not read at all, and the layout that it notates changes nothing.
    have plain : (TextLayout.mk none none none).Readable := by decide
    have held : (TextLayout.mk none none none).Held memory := Nat.zero_le memory
    have unchanged : (TextLayout.mk none none none).render value = value :=
      TextLayout.fillUp_zero _ _ _
    have applied := TextLayout.apply_written memory ⟨none, none, none⟩ value
    rw [if_pos plain, if_pos held, unchanged] at applied
    exact applied.symm
  | cons c layout => rfl

/-- A field of a template filled with the value. -/
def fillField (memory : Nat) (value : Text) (depth : Nat) (field : Field) :
    Except TemplateFault Text := do
  let found ← valueOf value field.name
  let converted ← convert field.conversion found
  let layout ← if field.layout.contains '{' then fillTo memory value depth field.layout
    else pure field.layout
  lay memory layout converted

theorem fillTo_succ (memory : Nat) (value : Text) (depth : Nat) (template : Text) :
    fillTo memory value (depth + 1) template =
      (script template).follow (fillField memory value depth) := rfl

theorem fillField_asked (memory : Nat) (value : Text) (depth : Nat) (converted : Bool)
    (layout : Option TextLayout) :
    fillField memory value depth (Piece.asked converted layout) =
      (Piece.field converted layout).filled memory value := by
  have found : valueOf value (Piece.asked converted layout).name = .ok (.text value) := rfl
  have converts : convert (Piece.asked converted layout).conversion (.text value) =
      .ok (.text value) := by
    cases converted <;> rfl
  rw [fillField, found, ok_bind, converts, ok_bind]
  cases layout with
  | none => rfl
  | some given =>
    have unbraced : '{' ∉ given.written :=
      fun member => (given.not_brace_of_mem_written member).1 rfl
    have contained : given.written.contains '{' = false := by
      rw [List.contains_eq_mem, decide_eq_false unbraced]
    rw [Piece.asked, Option.elim_some, contained, if_neg Bool.false_ne_true, pure_bind]
    exact lay_text memory given.written value

/-- Filling what begins with a piece is filling that piece and then the rest. -/
theorem follow_written (memory : Nat) (value : Text) (depth : Nat) (piece : Piece) (rest : Text) :
    (scriptAfter 0 (piece.written ++ rest)).follow (fillField memory value depth) = (do
      let first ← piece.filled memory value
      let others ← (scriptAfter 0 rest).follow (fillField memory value depth)
      return first ++ others) := by
  cases piece with
  | literal text =>
    rw [Piece.written, scriptAfter_doubled, follow_foldr_literal, Piece.filled, ok_bind]
  | field converted layout => rw [scriptAfter_field, Script.follow, fillField_asked]

/-- Filling a template is filling its pieces, and putting together what they give. -/
theorem fill_write (memory : Nat) (value : Text) (pieces : List Piece) :
    fill memory value (write pieces) =
      (do return (← pieces.mapM (·.filled memory value)).flatten) := by
  rw [fill, fillTo_succ, script]
  induction pieces with
  | nil => rfl
  | cons piece pieces inductionHypothesis =>
    rw [write, List.flatMap_cons, ← write, follow_written, inductionHypothesis, List.mapM_cons]
    cases piece.filled memory value with
    | error fault => rfl
    | ok first => cases pieces.mapM (·.filled memory value) <;> rfl

/-! ### Pieces that are not filled -/

/-- Why the piece is not filled: a number in it cannot be read, or there is no memory for it. -/
inductive Piece.FailsWith (memory : Nat) (piece : Piece) : TemplateFault → Prop where
  | unreadable (unreadable : ¬ piece.Readable) : FailsWith memory piece .numberTooLarge
  | unheld (unheld : ¬ piece.Held memory) : FailsWith memory piece .noMemory

theorem Piece.filled_eq (memory : Nat) (piece : Piece) (value : Text) :
    piece.filled memory value =
      if piece.Readable then
        if piece.Held memory then .ok (piece.render value) else .error .noMemory
      else .error .numberTooLarge := by
  cases piece with
  | literal text => rfl
  | field converted layout =>
    cases layout with
    | none => rfl
    | some given =>
      have readable : (field converted (some given)).Readable ↔ given.Readable := by
        simp only [Readable, Option.mem_some, forall_eq']
      have held : (field converted (some given)).Held memory ↔ given.Held memory := by
        simp only [Held, Option.mem_some, forall_eq']
      simp only [filled, Option.elim_some, given.apply_written, readable, held]
      rfl

theorem Piece.failsWith_of_filled {memory : Nat} {piece : Piece} {value : Text}
    {fault : TemplateFault} (failed : piece.filled memory value = .error fault) :
    piece.FailsWith memory fault := by
  rw [filled_eq] at failed
  by_cases readable : piece.Readable
  · by_cases held : piece.Held memory
    · rw [if_pos readable, if_pos held] at failed
      cases failed
    · rw [if_pos readable, if_neg held] at failed
      exact Except.error.inj failed ▸ .unheld held
  · rw [if_neg readable] at failed
    exact Except.error.inj failed ▸ .unreadable readable

variable {memory : Nat} {pieces : List Piece} {value : Text}

/-- A template whose pieces can be read and held gives what they stand for, one behind the other. -/
theorem fill_write_of_held (readable : ∀ piece ∈ pieces, piece.Readable)
    (held : ∀ piece ∈ pieces, piece.Held memory) (value : Text) :
    fill memory value (write pieces) = .ok (render value pieces) := by
  have each : pieces.mapM (·.filled memory value) = .ok (pieces.map (·.render value)) := by
    refine mapM_eq_ok _ _ _ fun piece member => ?_
    rw [piece.filled_eq, if_pos (readable piece member), if_pos (held piece member)]
  rw [fill_write, each, render, List.flatMap_def]
  rfl

/-- A template that is not filled has a piece that is to blame. -/
theorem exists_failsWith_of_fill_write {fault : TemplateFault}
    (failed : fill memory value (write pieces) = .error fault) :
    ∃ piece ∈ pieces, piece.FailsWith memory fault := by
  rw [fill_write] at failed
  rcases bind_eq_error_iff.mp failed with unfilled | ⟨parts, _, joined⟩
  · obtain ⟨piece, member, here⟩ := exists_error_of_mapM unfilled
    exact ⟨piece, member, Piece.failsWith_of_filled here⟩
  · cases joined

/-- A template is filled exactly if all its pieces can be read and held, whatever the value. -/
theorem exists_fill_write_iff :
    (∃ message, fill memory value (write pieces) = .ok message) ↔
      (∀ piece ∈ pieces, piece.Readable) ∧ ∀ piece ∈ pieces, piece.Held memory := by
  refine ⟨?_, fun taken => ⟨_, fill_write_of_held taken.1 taken.2 value⟩⟩
  rintro ⟨message, returned⟩
  rw [fill_write] at returned
  obtain ⟨parts, filled, _⟩ := bind_eq_ok_iff.mp returned
  have each : ∀ piece ∈ pieces, piece.Readable ∧ piece.Held memory := by
    intro piece member
    obtain ⟨part, _, here⟩ := exists_result_of_mapM filled member
    rw [piece.filled_eq] at here
    split_ifs at here with readable held
    exact ⟨readable, held⟩
  exact ⟨fun piece member => (each piece member).1, fun piece member => (each piece member).2⟩

end IgniterLint.Template
