/-
This file is about the normal form in which a registry compares names. A name in normal form has no
blank at an end, no backslash, and only characters that lowering leaves alone. The normal form of
every name is such a name, and such a name is its own normal form, so normalizing twice is
normalizing once. The steps do not disturb each other because lowering makes neither blanks nor
backslashes.

Names that differ in blanks at their ends, in the case of Latin letters or in the direction of
slashes have one normal form. The single changes are followed one at a time: a blank at an end is
cut off again, and a character inside the name is exchanged for one that lowers alike.
-/

import IgniterLint.Proofs.Text.LowerCase
import IgniterLint.Registry
import Mathlib.Data.List.DropRight
import Mathlib.Logic.Relation

namespace IgniterLint

namespace Text

/-! ### Texts without blanks at their ends -/

/-- Neither end of the text is blank. -/
structure Trimmed (text : Text) : Prop where
  front : ∀ c, text.head? = some c → isBlank c = false
  back : ∀ c, text.getLast? = some c → isBlank c = false

theorem trim_eq (text : Text) : trim text = (text.dropWhile isBlank).rdropWhile isBlank := rfl

theorem trimmed_trim (text : Text) : Trimmed (trim text) := by
  rw [trim_eq]
  constructor
  · intro c isHead
    obtain ⟨cut, whole⟩ := List.rdropWhile_prefix isBlank (text.dropWhile isBlank)
    have first := List.head?_dropWhile_not isBlank text
    rwa [← whole, List.head?_append, isHead, Option.some_or] at first
  · intro c isLast
    obtain ⟨nonempty, rfl⟩ := List.mem_getLast?_eq_getLast isLast
    exact Bool.eq_false_iff.mpr (List.rdropWhile_last_not isBlank _ nonempty)

theorem Trimmed.trim_eq {text : Text} (trimmed : Trimmed text) : trim text = text := by
  have front : text.dropWhile isBlank = text := by
    cases text with
    | nil => rfl
    | cons c rest =>
      exact List.dropWhile_cons_of_neg (Bool.eq_false_iff.mp (trimmed.front c rfl))
  rw [Text.trim_eq, front, List.rdropWhile_eq_self_iff]
  intro nonempty
  exact Bool.eq_false_iff.mp (trimmed.back _ (List.getLast?_eq_some_getLast nonempty))

theorem Trimmed.map {text : Text} (trimmed : Trimmed text) {change : Char → Char}
    (unblank : ∀ c, isBlank c = false → isBlank (change c) = false) :
    Trimmed (text.map change) := by
  constructor
  · intro c isHead
    rw [List.head?_map] at isHead
    obtain ⟨d, isFirst, rfl⟩ := Option.map_eq_some_iff.mp isHead
    exact unblank d (trimmed.front d isFirst)
  · intro c isLast
    rw [List.getLast?_map] at isLast
    obtain ⟨d, isFinal, rfl⟩ := Option.map_eq_some_iff.mp isLast
    exact unblank d (trimmed.back d isFinal)

theorem Trimmed.lower {text : Text} (trimmed : Trimmed text) : Trimmed (lower text) := by
  constructor
  · intro c isHead
    cases text with
    | nil => exact nomatch isHead
    | cons d rest =>
      rw [head?_lower_cons] at isHead
      exact unblank_of_mem_lowerBetween (trimmed.front d rfl) (List.mem_of_head? isHead)
  · intro c isLast
    cases text using List.reverseRecOn with
    | nil => exact nomatch isLast
    | append_singleton front d =>
      rw [Text.lower, getLast?_lowerAfter_concat] at isLast
      have unblank := trimmed.back d List.getLast?_concat
      exact unblank_of_mem_lowerBetween unblank (List.mem_of_getLast? isLast)

theorem trim_cons_blank {c : Char} (blank : isBlank c = true) (text : Text) :
    trim (c :: text) = trim text := by
  rw [trim_eq, List.dropWhile_cons_of_pos blank, trim_eq]

theorem trim_concat_blank {c : Char} (blank : isBlank c = true) (text : Text) :
    trim (text ++ [c]) = trim text := by
  rw [trim_eq, List.dropWhile_append, trim_eq]
  split
  · next empty => rw [List.isEmpty_iff.mp empty, List.dropWhile_cons_of_pos blank]; rfl
  · exact List.rdropWhile_concat_pos _ _ _ blank

theorem dropWhile_append_cons {kind : Char → Bool} {c : Char} (kept : kind c = false)
    (before after : Text) :
    (before ++ c :: after).dropWhile kind = before.dropWhile kind ++ c :: after := by
  rw [List.dropWhile_append, List.dropWhile_cons_of_neg (Bool.eq_false_iff.mp kept)]
  split
  · next empty => rw [List.isEmpty_iff.mp empty, List.nil_append]
  · rfl

/-- Of a text with a character that is not blank, trimming cuts the two sides apart from each
other. -/
theorem trim_around {c : Char} (unblank : isBlank c = false) (before after : Text) :
    trim (before ++ c :: after) = before.dropWhile isBlank ++ c :: after.rdropWhile isBlank := by
  rw [trim_eq, dropWhile_append_cons unblank, List.rdropWhile, List.rdropWhile, List.reverse_append,
    List.reverse_cons, List.append_assoc, List.singleton_append, dropWhile_append_cons unblank]
  simp

end Text

/-! ### The normal form -/

/-- A backslash turned into a slash; any other character stays. -/
def forwardSlash (c : Char) : Char := if c = '\\' then '/' else c

theorem normalizeModelName_eq (name : Text) :
    normalizeModelName name = Text.lower (name.trim.map forwardSlash) := rfl

theorem forwardSlash_ne_backslash (c : Char) : forwardSlash c ≠ '\\' := by
  rw [forwardSlash]
  split
  · decide
  · next other => exact other

theorem unblank_forwardSlash (c : Char) (unblank : Text.isBlank c = false) :
    Text.isBlank (forwardSlash c) = false := by
  rw [forwardSlash]
  split
  · decide
  · exact unblank

/-- The name is in the form in which names are compared. -/
structure IsNormalName (name : Text) : Prop where
  trimmed : Text.Trimmed name
  forward : '\\' ∉ name
  small : ∀ c ∈ name, Text.IsSmall c

theorem isNormalName_normalizeModelName (name : Text) : IsNormalName (normalizeModelName name) := by
  rw [normalizeModelName_eq]
  refine ⟨((Text.trimmed_trim name).map unblank_forwardSlash).lower, ?_, ?_⟩
  · refine Text.backslash_notMem_lower fun member => ?_
    obtain ⟨c, _, isBackslash⟩ := List.mem_map.mp member
    exact forwardSlash_ne_backslash c isBackslash
  · exact fun c => Text.isSmall_of_mem_lower

theorem IsNormalName.normalize_eq {name : Text} (normal : IsNormalName name) :
    normalizeModelName name = name := by
  have unturned : name.map forwardSlash = name.map id := by
    refine List.map_congr_left fun c member => if_neg ?_
    rintro rfl
    exact normal.forward member
  rw [normalizeModelName_eq, normal.trimmed.trim_eq, unturned, List.map_id]
  exact Text.lowerAfter_of_small normal.small []

theorem normalizeModelName_twice (name : Text) :
    normalizeModelName (normalizeModelName name) = normalizeModelName name :=
  (isNormalName_normalizeModelName name).normalize_eq

/-! ### Lookups -/

namespace Registry

theorem lookup_byNormalForm (status : Text → LookupStatus) (name : Text) :
    (byNormalForm status).lookup name =
      ⟨status (normalizeModelName name), normalizeModelName name⟩ := rfl

/-- A lookup by normal form depends on the name only through it. -/
theorem lookup_byNormalForm_congr (status : Text → LookupStatus) {name other : Text}
    (same : normalizeModelName name = normalizeModelName other) :
    (byNormalForm status).lookup name = (byNormalForm status).lookup other := by
  rw [lookup_byNormalForm, lookup_byNormalForm, same]

/-- What a lookup by normal form answers with is looked up like the name itself. -/
theorem lookup_byNormalForm_twice (status : Text → LookupStatus) (name : Text) :
    (byNormalForm status).lookup ((byNormalForm status).lookup name).name =
      (byNormalForm status).lookup name :=
  lookup_byNormalForm_congr status (normalizeModelName_twice name)

/-- A list of models may have each of them replaced by one of the same normal form. -/
theorem lookup_listing_map {change : Text → Text}
    (keeps : ∀ model, normalizeModelName (change model) = normalizeModelName model)
    (models : List Text) (name : Text) :
    (listing (models.map change)).lookup name = (listing models).lookup name := by
  have same : (models.map change).map normalizeModelName = models.map normalizeModelName := by
    rw [List.map_map]
    exact List.map_congr_left fun model _ => keeps model
  rw [listing, listing, same]

/-- A registry that lists models finds those names that have the normal form of one of them. -/
theorem exists_lookup_listing_iff {models : List Text} {name : Text} :
    ((listing models).lookup name).exists = true ↔
      ∃ model ∈ models, normalizeModelName model = normalizeModelName name := by
  have listed : (models.map normalizeModelName).contains (normalizeModelName name) = true ↔
      ∃ model ∈ models, normalizeModelName model = normalizeModelName name := by
    rw [List.contains_iff_mem, List.mem_map]
  rw [← listed, listing, lookup_byNormalForm, Lookup.exists]
  split
  · next contained => exact iff_of_true rfl contained
  · next absent => exact iff_of_false Bool.false_ne_true absent

end Registry

/-- The normal form is canonical. Taking it twice is taking it once; looking up the name that a
lookup answered with gives the same answer, by either registry of the library; and a registry may
list its models in normal form. -/
theorem normalizeModelName_canonical :
    (∀ name, normalizeModelName (normalizeModelName name) = normalizeModelName name) ∧
    (∀ name, Registry.unaware.lookup (Registry.unaware.lookup name).name =
      Registry.unaware.lookup name) ∧
    (∀ (models : List Text) (name : Text),
      (Registry.listing models).lookup ((Registry.listing models).lookup name).name =
        (Registry.listing models).lookup name) ∧
    ∀ (models : List Text) (name : Text),
      (Registry.listing (models.map normalizeModelName)).lookup name =
        (Registry.listing models).lookup name :=
  ⟨normalizeModelName_twice, Registry.lookup_byNormalForm_twice _,
    fun _ => Registry.lookup_byNormalForm_twice _,
    Registry.lookup_listing_map normalizeModelName_twice⟩

/-! ### Spellings of one name -/

/-- One change to the spelling of a name. -/
inductive Respelled : Text → Text → Prop
  /-- a blank is put in front -/
  | blankInFront (c : Char) (name : Text) (blank : Text.isBlank c = true) :
    Respelled name (c :: name)
  /-- a blank is put behind -/
  | blankBehind (name : Text) (c : Char) (blank : Text.isBlank c = true) :
    Respelled name (name ++ [c])
  /-- a capital of the Latin alphabet is written small -/
  | smallLetter (before : Text) (c : Char) (after : Text) :
    Respelled (before ++ c :: after) (before ++ c.toLower :: after)
  /-- a slash is turned around -/
  | slash (before after : Text) : Respelled (before ++ '/' :: after) (before ++ '\\' :: after)

/-- Two spellings of one name: changes lead from one to the other, each made or undone. -/
def SpellingVariant : Text → Text → Prop := Relation.EqvGen Respelled

/-- Inside a name a character may be exchanged for another, if the two lower alike after slashes
have been turned. -/
theorem normalizeModelName_replace {c d : Char} (unblank : Text.isBlank c = false)
    (otherUnblank : Text.isBlank d = false)
    (alike : Text.LowersAlike (forwardSlash c) (forwardSlash d)) (before after : Text) :
    normalizeModelName (before ++ c :: after) = normalizeModelName (before ++ d :: after) := by
  rw [normalizeModelName_eq, normalizeModelName_eq, Text.trim_around unblank,
    Text.trim_around otherUnblank, List.map_append, List.map_append, List.map_cons, List.map_cons]
  exact Text.lower_replace alike _ _

theorem Respelled.normalize_eq {one other : Text} (respelled : Respelled one other) :
    normalizeModelName one = normalizeModelName other := by
  cases respelled with
  | blankInFront c name blank =>
    rw [normalizeModelName, normalizeModelName, Text.trim_cons_blank blank]
  | blankBehind name c blank =>
    rw [normalizeModelName, normalizeModelName, Text.trim_concat_blank blank]
  | smallLetter before c after =>
    rcases Text.toLower_cases c with unchanged | ⟨latin, small, alike⟩
    · rw [unchanged]
    · refine normalizeModelName_replace latin.not_isBlank small.not_isBlank ?_ before after
      rwa [forwardSlash, forwardSlash, if_neg (latin.ne (by decide)),
        if_neg (small.ne (by decide))]
  | slash before after =>
    have alike : Text.LowersAlike (forwardSlash '/') (forwardSlash '\\') := .refl '/'
    exact normalizeModelName_replace (by decide) (by decide) alike before after

theorem SpellingVariant.normalize_eq {one other : Text} (variant : SpellingVariant one other) :
    normalizeModelName one = normalizeModelName other := by
  induction variant with
  | rel _ _ respelled => exact respelled.normalize_eq
  | refl _ => rfl
  | symm _ _ _ inductionHypothesis => exact inductionHypothesis.symm
  | trans _ _ _ _ _ first second => exact first.trans second

/-- The registries of the library do not tell the spellings of a name apart. They answer alike about
all of them, with the same status and the same normal form, and a model on their list may be spelled
in any of these ways without a change to any answer. -/
theorem lookup_ignores_spelling (one other : Text) (variant : SpellingVariant one other) :
    Registry.unaware.lookup one = Registry.unaware.lookup other ∧
    (∀ models, (Registry.listing models).lookup one = (Registry.listing models).lookup other) ∧
    ∀ (models : List Text) (name : Text),
      (Registry.listing (models.map fun model => if model = one then other else model)).lookup
          name =
        (Registry.listing models).lookup name := by
  refine ⟨Registry.lookup_byNormalForm_congr _ variant.normalize_eq,
    fun _ => Registry.lookup_byNormalForm_congr _ variant.normalize_eq, fun models name => ?_⟩
  refine Registry.lookup_listing_map (fun model => ?_) models name
  split
  · next isOne => rw [isOne, variant.normalize_eq]
  · rfl

/-- The capital sigma closes a word in both spellings, in front of a slash of either direction. -/
theorem lookup_ignores_spelling_finalSigma :
    SpellingVariant " ΑΣ\\B".toList "ΑΣ/b\u00a0".toList ∧
      (Registry.listing ["ΑΣ/b\u00a0".toList]).lookup " ΑΣ\\B".toList =
        ⟨.found, "ας/b".toList⟩ := by
  have variant : SpellingVariant " ΑΣ\\B".toList "ΑΣ/b\u00a0".toList := by
    refine .trans _ "ΑΣ\\B".toList _ (.symm _ _ (.rel _ _ (.blankInFront ' ' _ (by decide)))) ?_
    refine .trans _ "ΑΣ/B".toList _ (.symm _ _ (.rel _ _ (.slash "ΑΣ".toList "B".toList))) ?_
    refine .trans _ "ΑΣ/b".toList _ (.rel _ _ (.smallLetter "ΑΣ/".toList 'B' [])) ?_
    exact .rel _ _ (.blankBehind "ΑΣ/b".toList '\u00a0' (by decide))
  refine ⟨variant, ?_⟩
  rw [(lookup_ignores_spelling _ _ variant).2.1]
  decide +kernel

end IgniterLint
