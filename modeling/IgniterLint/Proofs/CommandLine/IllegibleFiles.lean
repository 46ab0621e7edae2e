/-
This file says what a run over a tree of files comes to when its arguments are plain paths. A path
that is too much for the system or for the search stops the run before anything is read. Otherwise
every file that cannot be read, or whose bytes are not text, is complained about once and makes the
exit code two; the output is what it would be if only the other files had been named, and it is what
an analysis of the same paths reports if there are no such files.
-/

import IgniterLint.Proofs.CommandLine.Check
import IgniterLint.Proofs.File.Expansion

namespace IgniterLint.CommandLine

/-! ### Arguments that are paths -/

/-- The argument looks like a path and not like a flag. -/
def IsPlain (argument : Text) : Prop := sortOne argument = .ok (.path argument)

instance (argument : Text) : Decidable (IsPlain argument) :=
  inferInstanceAs (Decidable (sortOne argument = .ok (.path argument)))

theorem sort_of_plain {arguments : List Text} (plain : ∀ argument ∈ arguments, IsPlain argument) :
    sort arguments = .ok (arguments.map .path) := by
  induction arguments with
  | nil => rfl
  | cons argument rest inductionHypothesis =>
    obtain ⟨here, there⟩ := List.forall_mem_cons.mp plain
    rw [sort, show sortOne argument = _ from here]
    simp only [bind, Except.bind]
    rw [inductionHypothesis there]
    rfl

/-- A run of paths is read to its end before it is closed. -/
theorem take_paths (progress : Progress) (texts : List Text) :
    take progress (texts.map Word.path) =
      take { progress with run := (texts.map Word.path).reverse ++ progress.run } [] := by
  induction texts generalizing progress with
  | nil => rfl
  | cons text rest inductionHypothesis =>
    have read : take progress (.path text :: rest.map .path) =
        take { progress with run := .path text :: progress.run } (rest.map .path) := by
      rw [take]
    rw [List.map_cons, read, inductionHypothesis, List.reverse_cons, List.append_assoc]
    rfl

theorem take_nil {words : List Word} (anyPath : words.reverse.any Progress.isPath = true) :
    take { Progress.start with run := words } [] =
      .ok (.check false ((words.reverse.filter fun word => word != .separator).map
        Word.written)) := by
  have closed : { Progress.start with run := words }.closeRun =
      ⟨false, some ((words.reverse.filter fun word => word != .separator).map Word.written),
        [], []⟩ := if_pos anyPath
  rw [take, closed]
  rfl

/-- Paths, alone or behind separators, are the paths to check. -/
theorem take_start {front : List Word} (separators : ∀ word ∈ front, word = .separator)
    {texts : List Text} (filled : texts ≠ []) :
    take { Progress.start with run := front } (texts.map Word.path) = .ok (.check false texts) := by
  have reversed : ((texts.map Word.path).reverse ++ front).reverse =
      front.reverse ++ texts.map Word.path := by
    rw [List.reverse_append, List.reverse_reverse]
  have anyPath : (front.reverse ++ texts.map Word.path).any Progress.isPath = true := by
    obtain ⟨text, rest, rfl⟩ := List.exists_cons_of_ne_nil filled
    simp [Progress.isPath]
  have kept : (front.reverse ++ texts.map Word.path).filter (fun word => word != Word.separator) =
      texts.map Word.path := by
    rw [List.filter_append, List.filter_eq_nil_iff.mpr, List.filter_eq_self.mpr, List.nil_append]
    · exact List.forall_mem_map.mpr fun text _ => rfl
    · intro word member
      rw [separators word (List.mem_reverse.mp member)]
      decide
  rw [take_paths]
  refine (take_nil (reversed ▸ anyPath)).trans ?_
  rw [reversed, kept, List.map_map]
  exact congrArg _ (congrArg _ (List.map_id texts))

theorem parse_of_plain {arguments : List Text} (filled : arguments ≠ [])
    (plain : ∀ argument ∈ arguments, IsPlain argument) :
    parse arguments = .ok (.check false arguments) := by
  rw [parse, sort_of_plain plain]
  exact take_start (fun word member => absurd member List.not_mem_nil) filled

theorem parse_separator {texts : List Text} (filled : texts ≠ []) :
    parse ("--".toList :: texts) = .ok (.check false texts) := by
  have separators : ∀ word ∈ [Word.separator], word = .separator :=
    fun word member => List.mem_singleton.mp member
  exact take_start separators filled

/-! ### Runs over a tree -/

variable {tree : Tree} {arguments : List Text} {files : List Path}

theorem run_of_plain (filled : arguments ≠ [])
    (plain : ∀ argument ∈ arguments, IsPlain argument) (system : FileSystem) :
    run system arguments = check system false arguments := by
  rw [run, parse_of_plain filled plain]

theorem failAlone_of_named (named : ∀ file ∈ files, ∀ name ∈ file.names, Path.IsName name) :
    FailAlone tree.fileSystem files :=
  fun file member _ failed => Tree.concernsFile_of_document (named file member) failed

/-- Naming the legible files alone gives their reports, and nothing else. -/
theorem run_legible {analyses : List Analysis}
    (named : ∀ file ∈ files, ∀ name ∈ file.names, Path.IsName name) (filled : files ≠ [])
    (legible : ∀ file ∈ files, tree.fileSystem.isLegible file = true)
    (analyzed : files.mapM (tree.fileSystem.analyzeFile (Rule.defaults .unaware)) = .ok analyses) :
    run tree.fileSystem ("--".toList :: files.map Path.render) =
      .ok ⟨0, stream (analyses.flatMap Analysis.report), []⟩ := by
  obtain ⟨outcome, others, checked, tells, complains⟩ :=
    exists_check_eq false (Tree.expand_render named legible) (failAlone_of_named named)
  have same : others = analyses := by
    have again := tells.analyzed
    rw [List.filter_eq_self.mpr legible, analyzed] at again
    exact (Except.ok.inj again).symm
  rw [run, parse_separator (List.map_eq_nil_iff.not.mpr filled)]
  refine checked.trans (congrArg _ ?_)
  rw [tells.eq_of_legible (complains rfl) legible, same]

/-- A run over plain paths stops only for a path that is too much for the system or for the search.
Otherwise it tells of its files: the exit code is two if one of them is illegible and else zero, the
output is that of the legible files, and the error stream has one complaint about each of the
others. Leaving the others out changes nothing about the output, and without any of them an analysis
of the same paths gives the same reports. -/
theorem run_tells_of_files (tree : Tree) (wellNamed : tree.top.WellNamed) (arguments : List Text)
    (filled : arguments ≠ []) (plain : ∀ argument ∈ arguments, IsPlain argument)
    (nullless : ∀ argument ∈ arguments, '\x00' ∉ argument) :
    (∃ argument ∈ arguments, tree.Exceeds (Path.ofText argument)) ∧
        (∃ fault, fault.StopsSearch ∧ run tree.fileSystem arguments = .error (.file fault)) ∨
      (¬ ∃ argument ∈ arguments, tree.Exceeds (Path.ofText argument)) ∧
        ∃ files outcome analyses, tree.fileSystem.expand arguments = .ok files ∧
          run tree.fileSystem arguments = .ok outcome ∧
          outcome.Tells tree.fileSystem files analyses ∧
          outcome.ComplainsOf tree.fileSystem files ∧
          (files.filter tree.fileSystem.isLegible ≠ [] →
            run tree.fileSystem
              ("--".toList :: (files.filter tree.fileSystem.isLegible).map Path.render) =
                .ok ⟨0, outcome.output, []⟩) ∧
          ((∀ path ∈ files, tree.fileSystem.isLegible path = true) →
            tree.fileSystem.analyze arguments none none = .ok analyses) := by
  rw [run_of_plain filled plain]
  rcases tree.expand_cases nullless with ⟨exceeds, fault, stops, failed⟩ | ⟨taken, files, expanded⟩
  · refine Or.inl ⟨exceeds, fault, stops, ?_⟩
    rw [check, failed]
    rfl
  · have named := Tree.isName_of_expand wellNamed nullless expanded
    obtain ⟨outcome, analyses, checked, tells, complains⟩ :=
      exists_check_eq false expanded (failAlone_of_named named)
    refine Or.inr ⟨taken, files, outcome, analyses, expanded, checked, tells, complains rfl, ?_,
      tells.analyze_eq expanded⟩
    intro legibleFilled
    rw [tells.output]
    exact run_legible (fun file member => named file (List.mem_of_mem_filter member)) legibleFilled
      (fun file member => (List.mem_filter.mp member).2) tells.analyzed

/-- A program in a folder with a file whose bytes are not text, one that it may not open and, behind
them, a sound one. -/
def brokenAndSound : Tree where
  top := .folder "srv".toList (.folder "site".toList
    (.file "broken.php".toList (.bytes [0xff]) <|
    .file "closed.php".toList (.fault (.other 13 "Permission denied".toList)) <|
    .file "controllers.php".toList (.bytes ("class A".toList.map fun c => UInt8.ofNat c.toNat))
      .empty) .empty) .empty
  here := ["srv".toList, "site".toList]
  reach := 900
  stands := ⟨_, _, rfl⟩

theorem expand_brokenAndSound :
    brokenAndSound.fileSystem.expand ["..".toList, "/srv/site/controllers.php".toList] =
      .ok (["../site/broken.php", "../site/closed.php", "../site/controllers.php",
        "/srv/site/controllers.php"].map fun text => Path.ofText text.toList) := by
  have above : brokenAndSound.fileSystem.expandPath (Path.ofText "..".toList) =
      .ok ([["site".toList, "broken.php".toList], ["site".toList, "closed.php".toList],
        ["site".toList, "controllers.php".toList]].map (Path.ofText "..".toList).append) :=
    FileSystem.expandPath_of_ascending (by rfl) (by rfl) (List.Perm.refl _) (by decide)
  have fromTop : brokenAndSound.fileSystem.expandPath
      (Path.ofText "/srv/site/controllers.php".toList) =
        .ok [Path.ofText "/srv/site/controllers.php".toList] :=
    FileSystem.expandPath_of_other (by rfl)
  rw [FileSystem.expand, List.mapM_cons, List.mapM_cons, above, fromTop]
  rfl

-- The files that cannot be decoded or opened are complained about, and the third is checked all the
-- same, be it found below the folder above or named from the top.
theorem run_tells_of_brokenAndSound :
    ∃ outcome,
      run brokenAndSound.fileSystem ["..".toList, "/srv/site/controllers.php".toList] =
        .ok outcome ∧
      outcome.exitCode = 2 ∧ outcome.output ≠ [] ∧
      run brokenAndSound.fileSystem ["--".toList, "../site/controllers.php".toList,
        "/srv/site/controllers.php".toList] = .ok ⟨0, outcome.output, []⟩ := by
  have broken : brokenAndSound.fileSystem.isLegible (Path.ofText "../site/broken.php".toList) =
      false := by
    decide +kernel
  have legible : List.filter brokenAndSound.fileSystem.isLegible
      (["../site/broken.php", "../site/closed.php", "../site/controllers.php",
        "/srv/site/controllers.php"].map fun text => Path.ofText text.toList) =
      ["../site/controllers.php", "/srv/site/controllers.php"].map
        fun text => Path.ofText text.toList := by
    decide +kernel
  have reported : (run brokenAndSound.fileSystem ["--".toList, "../site/controllers.php".toList,
      "/srv/site/controllers.php".toList]).map (·.output.isEmpty) = .ok false := by
    decide +kernel
  have nullless : ∀ argument ∈ ["..".toList, "/srv/site/controllers.php".toList],
      '\x00' ∉ argument := by
    decide
  rcases run_tells_of_files brokenAndSound (by decide) _ (by decide) (by decide) nullless with
    ⟨exceeds, _⟩ | ⟨_, files, outcome, _, listed, returned, tells, _, rerun, _⟩
  · rcases brokenAndSound.expand_cases nullless with ⟨_, _, _, unexpanded⟩ | ⟨taken, _⟩
    · exact nomatch expand_brokenAndSound.symm.trans unexpanded
    · exact absurd exceeds taken
  · obtain rfl := Except.ok.inj (expand_brokenAndSound.symm.trans listed)
    rw [legible] at rerun
    have alone : run brokenAndSound.fileSystem ["--".toList, "../site/controllers.php".toList,
        "/srv/site/controllers.php".toList] = .ok ⟨0, outcome.output, []⟩ :=
      rerun (List.cons_ne_nil _ _)
    rw [alone] at reported
    exact ⟨outcome, returned, tells.exitCode.trans (if_pos ⟨_, List.mem_cons_self, broken⟩),
      List.isEmpty_eq_false_iff.mp (Except.ok.inj reported), alone⟩

-- A name of 256 characters cannot be read, and it stops the run. There is no exit code, and the
-- sound file in front of it is not reported.
theorem run_error_of_longName :
    brokenAndSound.top.WellNamed ∧
      (∀ argument ∈ ["controllers.php".toList, List.replicate 256 'a'],
        IsPlain argument ∧ '\x00' ∉ argument) ∧
      run brokenAndSound.fileSystem ["controllers.php".toList, List.replicate 256 'a'] =
        .error (.file (.system .nameTooLong ⟨.here, [List.replicate 256 'a']⟩)) := by
  refine ⟨by decide, ?_, ?_⟩ <;> decide +kernel

end IgniterLint.CommandLine
