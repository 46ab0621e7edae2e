/-
This file compares the two ways in which a file shows that it is a source file. Its written path
ends as source files do, which gives it its parts; and its last name has the ending of source files,
which gives it its language. The end of a written path is the end of its last name, because no slash
is in the way. The ending of a name is what the name ends in, unless nothing stands in front of it.
So a file that plays a part is in the source language, and a session that is given its document
files what an analysis of its path reports; only a file whose whole name is the ending is left out,
although the analysis reports on it.
-/

import IgniterLint.Proofs.File.Tree
import IgniterLint.Proofs.Session.LastReceived
import IgniterLint.Proofs.Text.Utf8

namespace IgniterLint

theorem Text.joinWith_concat (separator : Text) {texts : List Text} (filled : texts ≠ [])
    (last : Text) :
    joinWith separator (texts ++ [last]) = joinWith separator texts ++ separator ++ last := by
  induction texts using joinWith.induct with
  | case1 => exact absurd rfl filled
  | case2 first => rfl
  | case3 first second rest inductionHypothesis =>
    have behind := inductionHypothesis (List.cons_ne_nil _ _)
    rw [List.cons_append, List.cons_append, joinWith, ← List.cons_append, behind, joinWith]
    simp only [List.append_assoc]

namespace Path

/-! ### The end of a written path -/

/-- The last name ends the written path, and a slash stands in front of it if anything does. -/
theorem exists_render_eq (root : Root) (front : List Text) (last : Text) :
    ∃ lead, (lead = [] ∨ ∃ upper, lead = upper ++ ['/']) ∧
      render ⟨root, front ++ [last]⟩ = lead ++ last := by
  rw [render, if_neg (by simp)]
  cases front with
  | nil =>
    refine ⟨root.render, ?_, rfl⟩
    cases root with
    | here => exact Or.inl rfl
    | top => exact Or.inr ⟨[], rfl⟩
    | doubleTop => exact Or.inr ⟨['/'], rfl⟩
  | cons first others =>
    refine ⟨root.render ++ Text.joinWith "/".toList (first :: others) ++ "/".toList,
      Or.inr ⟨_, rfl⟩, ?_⟩
    rw [Text.joinWith_concat _ (List.cons_ne_nil _ _)]
    simp only [List.append_assoc]

/-- What has no slash in it and ends a text, ends the part behind any slash of it. -/
theorem suffix_of_suffix_append_slash {word upper rest : Text} (slashless : '/' ∉ word)
    (ends : word <:+ upper ++ '/' :: rest) : word <:+ rest := by
  rcases List.suffix_or_suffix_of_suffix ends (List.suffix_append upper ('/' :: rest)) with
    inside | beyond
  · rcases List.suffix_cons_iff.mp inside with rfl | behind
    · exact absurd List.mem_cons_self slashless
    · exact behind
  · exact absurd (beyond.subset List.mem_cons_self) slashless

/-- A written path that ends as source files do has a last name that does. -/
theorem sourceEnding_suffix_name {path : Path} (ends : Roles.sourceEnding <:+ path.render) :
    Roles.sourceEnding <:+ path.name := by
  obtain ⟨root, names⟩ := path
  rcases List.eq_nil_or_concat' names with rfl | ⟨front, last, rfl⟩
  · -- Without names the written path is made of a dot or of slashes.
    revert ends
    cases root <;> decide
  · obtain ⟨lead, slash, written⟩ := exists_render_eq root front last
    rw [written] at ends
    rw [name, List.getLastD_concat]
    rcases slash with rfl | ⟨upper, rfl⟩
    · exact ends
    · rw [List.append_assoc] at ends
      exact suffix_of_suffix_append_slash (by decide) ends

/-! ### The ending of a name -/

/-- What stands from the last dot on is the ending, unless the dot comes first. -/
theorem endingOf_append (stem extension : Text) (filled : extension ≠ [])
    (dotless : '.' ∉ extension) :
    endingOf (stem ++ '.' :: extension) = if stem = [] then [] else '.' :: extension := by
  have taken : (stem ++ '.' :: extension).reverse.takeWhile (· != '.') = extension.reverse := by
    rw [List.reverse_append, List.reverse_cons, List.append_assoc]
    refine takeWhile_append_eq ?_ ?_
    · intro c member
      exact bne_iff_ne.mpr fun isDot => dotless (isDot ▸ List.mem_reverse.mp member)
    · intro c head
      obtain rfl := Option.some.inj head
      rfl
  rw [endingOf, taken]
  cases stem with
  | nil => simp
  | cons c stem =>
    have longer : ¬ (c :: stem ++ '.' :: extension).length ≤ extension.reverse.length + 1 := by
      rw [List.length_append, List.length_cons, List.length_cons, List.length_reverse]
      omega
    rw [decide_eq_false longer, List.isEmpty_reverse, List.isEmpty_eq_false_iff.mpr filled,
      List.reverse_reverse]
    rfl

/-- A name that ends as source files do has this as its ending, unless it is nothing else. -/
theorem endingOf_eq_sourceEnding_iff {name : Text} (ends : Roles.sourceEnding <:+ name) :
    endingOf name = Roles.sourceEnding ↔ name ≠ Roles.sourceEnding := by
  obtain ⟨stem, rfl⟩ := ends
  have ending : endingOf (stem ++ Roles.sourceEnding) =
      if stem = [] then [] else Roles.sourceEnding :=
    endingOf_append stem "php".toList (by decide) (by decide)
  rw [ending]
  split
  · next bare => exact iff_of_false (by decide) (by simp [bare])
  · next led => exact iff_of_true rfl fun same => led (List.append_left_eq_self.mp same)

end Path

/-! ### Files that play a part -/

theorem Roles.sourceEnding_suffix_of_ofPath {path : Text} (plays : ofPath path ≠ none) :
    sourceEnding <:+ path := by
  rw [ofPath] at plays
  split at plays
  · next ends => exact List.isSuffixOf_iff_suffix.mp ends
  · exact absurd rfl plays

namespace FileSystem

variable {system : FileSystem} {path : Path} {document : Document}

/-- A file that plays a part is in the source language, unless its name is the ending alone. -/
theorem language_eq_iff (read : system.document path = .ok document)
    (plays : Roles.ofPath document.identity ≠ .none) :
    document.language = Document.sourceLanguage ↔ path.name ≠ Roles.sourceEnding := by
  obtain ⟨identity, language⟩ := identity_and_language_of_document read
  have ends := Roles.sourceEnding_suffix_of_ofPath plays
  rw [identity] at ends
  rw [language, languageOf,
    ← Path.endingOf_eq_sourceEnding_iff (Path.sourceEnding_suffix_name ends)]
  show (if Path.endingOf path.name = Roles.sourceEnding then _ else _) = _ ↔ _
  split
  · next same => exact iff_of_true rfl same
  · next other => exact iff_of_false (by decide) other

end FileSystem

namespace Tree

/-- An analysis of a path that leads to a document reports what the rules have to say about it. -/
theorem analyze_of_document {tree : Tree} {argument : Text} {document : Document}
    (read : tree.fileSystem.document (Path.ofText argument) = .ok document) (registry : Registry) :
    tree.fileSystem.analyze [argument] none (some registry) =
      .ok [⟨document, Roles.ofPath document.identity, Rule.reportAll document.text
        (Roles.ofPath document.identity) (Rule.defaults registry)⟩] := by
  have checked : tree.fileSystem.analyzeFile (Rule.defaults registry) (Path.ofText argument) =
      (Analysis.ofDocument document none (some registry)).mapError .check := by
    rw [FileSystem.analyzeFile, read]
    rfl
  rw [FileSystem.analyze, Rule.resolve_defaults, expand_of_document read]
  show [Path.ofText argument].mapM (tree.fileSystem.analyzeFile (Rule.defaults registry)) = _
  rw [List.mapM_cons, checked, Analysis.ofDocument_defaults]
  rfl

/-- Of a file that plays a part, the document is in the source language exactly if the name of the
file is not the ending of source files alone. A session for that language files the document as an
analysis of the path reports it, and leaves its ledger as it was if the name is the ending alone. -/
theorem language_of_roles (tree : Tree) (argument : Text) (document : Document)
    (read : tree.fileSystem.document (Path.ofText argument) = .ok document)
    (plays : Roles.ofPath document.identity ≠ .none) :
    (document.language = Document.sourceLanguage ↔
      (Path.ofText argument).name ≠ Roles.sourceEnding) ∧
    ∀ options ledger session, Session.Serving options ledger session →
      options.language = Document.sourceLanguage →
      ∃ analysis,
        tree.fileSystem.analyze [argument] none (some options.registry) = .ok [analysis] ∧
        analysis.document = document ∧
        (stateAfter (Session.receive document) session).ledger =
          some (if (Path.ofText argument).name = Roles.sourceEnding then ledger
            else ledger.insert document.identity analysis.diagnostics) := by
  have inSource := FileSystem.language_eq_iff read plays
  refine ⟨inSource, fun options ledger session serving sourceSession =>
    ⟨_, analyze_of_document read options.registry, rfl, ?_⟩⟩
  have identified : document.identity ≠ [] := by
    intro nameless
    rw [nameless] at plays
    exact plays rfl
  have taken : options.takes document = true ↔
      (Path.ofText argument).name ≠ Roles.sourceEnding := by
    rw [← inSource, Options.takes, sourceSession, Bool.and_eq_true, beq_iff_eq, bne_iff_ne]
    exact and_iff_left identified
  rw [(serving.after_receive document).filed, Ledger.fileAll_singleton]
  by_cases bare : (Path.ofText argument).name = Roles.sourceEnding
  · rw [if_pos bare, if_neg fun takes => taken.mp takes bare]
  · rw [if_neg bare, if_pos (taken.mpr bare)]
    rfl

/-- A program beside the folder with a controller of the given name, which extends nothing. -/
def plainController (name : Text) : Tree where
  top := .folder "app".toList (.folder "controllers".toList
    (.file name (.bytes (Utf8.encode "class A".toList)) .empty) .empty) .empty
  here := ["app".toList]
  reach := 900
  stands := ⟨_, _, rfl⟩

-- Of several dots in a name the last one counts, and other spellings of the path do not matter.
theorem language_of_roles_dottedName :
    ∃ document session ledger analysis,
      (plainController "A.b.php".toList).fileSystem.document
        (Path.ofText "/app//controllers/./A.b.php".toList) = .ok document ∧
      document.language = "php" ∧ Session.Serving .defaults ledger session ∧
      (plainController "A.b.php".toList).fileSystem.analyze
        ["/app//controllers/./A.b.php".toList] none (some .unaware) = .ok [analysis] ∧
      (stateAfter (Session.receive document) session).ledger =
        some (ledger.insert document.identity analysis.diagnostics) := by
  have read : (plainController "A.b.php".toList).fileSystem.document
      (Path.ofText "/app//controllers/./A.b.php".toList) =
        .ok ⟨"/app/controllers/A.b.php".toList, "class A".toList, "php"⟩ := by decide +kernel
  obtain ⟨handed, activated⟩ : ∃ handed, Session.activate (.fresh .defaults) =
      .ok handed (stateAfter Session.activate (.fresh .defaults)) := ⟨_, rfl⟩
  obtain ⟨name, publisher, serving⟩ := Session.Serving.of_activate activated
  obtain ⟨inSource, filed⟩ := language_of_roles _ _ _ read (by decide)
  obtain ⟨analysis, analyzed, _, left⟩ := filed _ _ _ serving rfl
  exact ⟨_, _, _, analysis, read, inSource.mpr (by decide), serving, analyzed, left⟩

-- A file whose whole name is the ending is a controller, and an analysis reports on it, but its
-- document is not in the source language.
theorem plainLanguage_of_bareEnding :
    (plainController ".php".toList).fileSystem.document (Path.ofText "controllers/.php".toList) =
      .ok ⟨"controllers/.php".toList, "class A".toList, "plaintext"⟩ ∧
    Roles.ofPath "controllers/.php".toList = .controllerOnly ∧
    ((plainController ".php".toList).fileSystem.analyze ["controllers/.php".toList] none none).map
      (fun analyses => analyses.map (·.diagnostics.length)) = .ok [1] := by
  refine ⟨?_, ?_, ?_⟩ <;> decide +kernel

end Tree

end IgniterLint
