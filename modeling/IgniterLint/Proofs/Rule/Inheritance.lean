/-
This file says when a rule about base classes reports, and where. It reports when the text nowhere
says that it extends the base class, and then once, at the first class declaration. The keyword may
occur many times before that without declaring anything, so first means that no declaration is
spelled from any earlier offset on, whatever its length; and the declaration that is reported has
its whole name. Where nothing is declared, the empty span at the start of the text is reported, and
nowhere else.
-/

import IgniterLint.Proofs.Rule.Defaults

namespace IgniterLint

namespace ClassDeclaration

variable {text : Text}

/-- The span covers a declaration with its whole name, and none starts before it. -/
structure IsFirst (text : Text) (span : Span) : Prop where
  inside : span.stop ≤ text.length
  declares : IsDeclaration (span.slice text)
  earliest : ∀ earlier < span.start, ∀ piece, piece <+: text.drop earlier → ¬ IsDeclaration piece
  complete : ∀ c, text[span.stop]? = some c → isNameChar c = false

/-- Where no declaration is recognised, none is spelled. -/
theorem not_isDeclaration_of_lengthAt?_eq_none (nothing : lengthAt? text = none) {piece : Text}
    (front : piece <+: text) : ¬ IsDeclaration piece := by
  intro spelled
  obtain ⟨rest, rfl⟩ := front
  have recognised := isSome_lengthAt? piece rest spelled
  rw [nothing] at recognised
  exact Bool.false_ne_true recognised

theorem isFirst_find (declared : ∃ piece, piece <:+: text ∧ IsDeclaration piece) :
    IsFirst text (find text) := by
  obtain ⟨piece, within, spelled⟩ := declared
  rw [find]
  cases found : findFrom? 0 text with
  | none => exact absurd spelled (not_isDeclaration_of_findFrom?_eq_none 0 text found piece within)
  | some span =>
    obtain ⟨before, _, length, rfl, recognised, rfl, nothingBefore⟩ :=
      exists_of_findFrom?_eq_some 0 text _ found
    obtain ⟨declaration, after, rfl, declares, rfl, stops⟩ :=
      (lengthAt?_eq_some_iff _ _).mp recognised
    rw [Option.getD_some, Nat.zero_add]
    refine ⟨?_, ?_, ?_, ?_⟩
    · simp [Span.ofLength]
    · rw [Span.slice_ofLength]
      exact declares
    · intro earlier bound piece front
      exact not_isDeclaration_of_lengthAt?_eq_none (nothingBefore earlier bound) front
    · intro c next
      have behind : (before ++ (declaration ++ after))[before.length + declaration.length]? =
          after.head? := by
        rw [← List.append_assoc, ← List.length_append, List.getElem?_append_right (Nat.le_refl _),
          Nat.sub_self, List.head?_eq_getElem?]
      exact stops c (behind.symm.trans next)

theorem find_eq_empty_iff :
    find text = Span.empty 0 ↔ ∀ piece, piece <:+: text → ¬ IsDeclaration piece := by
  constructor
  · intro isEmpty piece within spelled
    have declares := (isFirst_find ⟨piece, within, spelled⟩).declares
    rw [isEmpty, Span.slice, Span.length_empty, List.take_zero] at declares
    exact declares.ne_nil rfl
  · intro absent
    rcases find_cases text with ⟨before, declaration, after, split, spelled, _⟩ | ⟨isEmpty, _⟩
    · exact absurd spelled (absent declaration ⟨before, after, by rw [split, List.append_assoc]⟩)
    · exact isEmpty

end ClassDeclaration

namespace Rule

open ClassDeclaration (IsDeclaration IsFirst find find_eq_empty_iff isFirst_find)

theorem checkInheritance_of_extends {base : Text} {spec : Spec} {text : Text}
    (mentioned : "extends ".toList ++ base <:+: text) : checkInheritance base spec text = [] := by
  rw [checkInheritance, if_pos ((Text.occursIn_iff _ _).mpr mentioned)]

theorem checkInheritance_of_not_extends {base : Text} {spec : Spec} {text : Text}
    (silent : ¬ "extends ".toList ++ base <:+: text) :
    checkInheritance base spec text = [Finding.ofSpec spec (find text) spec.message] := by
  rw [checkInheritance, if_neg fun occurs => silent ((Text.occursIn_iff _ _).mp occurs)]

/-- A rule about a base class reports nothing exactly when the text says somewhere that it extends
the class, and otherwise it reports the span of the search for a class declaration, once. The search
gives the first declaration with its whole name, and the empty span at the start of the text exactly
when nothing is declared. -/
theorem inheritance_reported_exactly (label id : String) (target : Roles) (base : Text)
    (spec : Spec) (text : Text) :
    ∃ findings, (inheritance label id target base spec).check text = .ok findings ∧
      (findings = [] ↔ "extends ".toList ++ base <:+: text) ∧
      (¬ "extends ".toList ++ base <:+: text →
        findings = [Finding.ofSpec spec (find text) spec.message]) ∧
      ((∃ piece, piece <:+: text ∧ IsDeclaration piece) → IsFirst text (find text)) ∧
      (find text = Span.empty 0 ↔ ∀ piece, piece <:+: text → ¬ IsDeclaration piece) := by
  refine ⟨checkInheritance base spec text, rfl, ⟨?_, checkInheritance_of_extends⟩,
    checkInheritance_of_not_extends, isFirst_find, find_eq_empty_iff⟩
  intro nothing
  by_contra silent
  rw [checkInheritance_of_not_extends silent] at nothing
  exact List.cons_ne_nil _ _ nothing

-- The keyword does not declare anything by itself, and a name ends with its ASCII letters.
example : find "class {} subclass  Blogé".toList = Span.ofLength 12 11 := by decide

end Rule

end IgniterLint
