/-
This file says what the bytes of a file make of its document. A document comes of the bytes of a
text and of no others, and its text is that one without the mark that may stand in front of it. Only
one mark goes, so putting one in front of a file that starts with none changes nothing: the document
is the same, and with it everything that is reported about the file.
-/

import IgniterLint.Proofs.File.Tree
import IgniterLint.Proofs.Text.Utf8

namespace IgniterLint

namespace Utf8

theorem dropMark_eq (text : Text) :
    dropMark text = if text.head? = some byteOrderMark then text.tail else text := by
  cases text with
  | nil => rfl
  | cons c rest => simp [dropMark]

theorem encode_byteOrderMark_cons (text : Text) :
    encode (byteOrderMark :: text) = 0xef :: 0xbb :: 0xbf :: encode text := by
  rw [encode_cons]
  rfl

end Utf8

open Utf8 (encode byteOrderMark)

namespace FileSystem

variable {system : FileSystem} {path : Path}

theorem document_of_encode {text : Text} (holds : system.read path = .ok (encode text)) :
    system.document path =
      .ok ⟨path.render, if text.head? = some byteOrderMark then text.tail else text,
        languageOf path⟩ := by
  rw [document, holds, ok_bind, Utf8.decode_eq_ok_iff.mpr rfl, ← Utf8.dropMark_eq]
  rfl

theorem document_of_foreign {bytes : List UInt8} (holds : system.read path = .ok bytes)
    (foreign : ∀ text, bytes ≠ encode text) :
    ∃ fault, system.document path = .error (.encoding fault) := by
  rw [document, holds, ok_bind]
  cases decoded : Utf8.decode bytes with
  | error fault => exact ⟨fault, rfl⟩
  | ok text => exact absurd (Utf8.decode_eq_ok_iff.mp decoded) (foreign text)

/-- A mark in front of a file that starts with none does not show in the document. -/
theorem document_of_marked {marked : FileSystem} {text : Text}
    (unmarked : text.head? ≠ some byteOrderMark) (holds : system.read path = .ok (encode text))
    (holdsMarked : marked.read path = .ok (0xef :: 0xbb :: 0xbf :: encode text)) :
    marked.document path = system.document path := by
  rw [← Utf8.encode_byteOrderMark_cons] at holdsMarked
  rw [document_of_encode holds, document_of_encode holdsMarked, if_neg unmarked]
  rfl

/-- What is reported about one file depends on its document alone. -/
theorem analyze_congr {other : FileSystem} {argument : Text} {path : Path}
    (stands : system.expand [argument] = .ok [path])
    (standsThere : other.expand [argument] = .ok [path])
    (same : other.document path = system.document path) (rules : Option (List Rule))
    (registry : Option Registry) :
    other.analyze [argument] rules registry = system.analyze [argument] rules registry := by
  have sameFile (rules : List Rule) :
      other.analyzeFile rules path = system.analyzeFile rules path := by
    rw [analyzeFile, analyzeFile, same]
  rw [analyze, analyze, stands, standsThere]
  refine bind_congr fun rules => ?_
  show [path].mapM (other.analyzeFile rules) = [path].mapM (system.analyzeFile rules)
  rw [List.mapM_cons, List.mapM_cons, sameFile]
  rfl

end FileSystem

namespace Tree

/-- A file that holds the bytes of a text makes a document of that text, less one mark in front if
there is any. A file that holds other bytes makes none, and the encoding is blamed. Two files at
one path that differ by a mark in front of the text make the same document, and an analysis of the
path comes to the same. -/
theorem document_decodes (tree : Tree) (path : Path) :
    (∀ text, tree.read path = .ok (encode text) →
      tree.fileSystem.document path =
        .ok ⟨path.render, if text.head? = some byteOrderMark then text.tail else text,
          FileSystem.languageOf path⟩) ∧
    (∀ bytes, tree.read path = .ok bytes → (∀ text, bytes ≠ encode text) →
      ∃ fault, tree.fileSystem.document path = .error (.encoding fault)) ∧
    ∀ (marked : Tree) (text : Text), text.head? ≠ some byteOrderMark →
      tree.read path = .ok (encode text) →
      marked.read path = .ok (0xef :: 0xbb :: 0xbf :: encode text) →
        marked.fileSystem.document path = tree.fileSystem.document path ∧
        ∀ argument, Path.ofText argument = path → ∀ rules registry,
          marked.fileSystem.analyze [argument] rules registry =
            tree.fileSystem.analyze [argument] rules registry := by
  refine ⟨fun text holds => FileSystem.document_of_encode holds, fun bytes holds foreign => ?_,
    fun marked text unmarked holds holdsMarked => ?_⟩
  · have read : tree.fileSystem.read path = .ok bytes := holds
    exact FileSystem.document_of_foreign read foreign
  have same : marked.fileSystem.document path = tree.fileSystem.document path :=
    FileSystem.document_of_marked unmarked holds holdsMarked
  refine ⟨same, ?_⟩
  rintro argument rfl rules registry
  have returned : tree.fileSystem.document (Path.ofText argument) = _ :=
    FileSystem.document_of_encode holds
  exact FileSystem.analyze_congr (expand_of_document returned)
    (expand_of_document (same.trans returned)) same rules registry

/-- A program beside the folder with a controller, which has the bytes given. -/
def oneController (content : List UInt8) : Tree where
  top := .folder "app".toList
    (.folder "controllers".toList (.file "A.php".toList (.bytes content) .empty) .empty) .empty
  here := ["app".toList]
  reach := 900
  stands := ⟨_, _, rfl⟩

-- The mark is dropped, a surrogate is refused, and the diagnostics do not tell of the mark, be the
-- controller named from the top or from where the program runs.
theorem document_decodes_oneController :
    (oneController (encode "\ufeffclass A".toList)).fileSystem.document
        (Path.ofText "/app/controllers/A.php".toList) =
      .ok ⟨"/app/controllers/A.php".toList, "class A".toList, "php"⟩ ∧
    (∃ fault, (oneController [0x61, 0xed, 0xa0, 0x80]).fileSystem.document
        (Path.ofText "../app/controllers/A.php".toList) = .error (.encoding fault)) ∧
    (oneController (0xef :: 0xbb :: 0xbf :: encode "class A".toList)).fileSystem.analyze
        ["controllers/A.php".toList] none none =
      (oneController (encode "class A".toList)).fileSystem.analyze
        ["controllers/A.php".toList] none none := by
  have holds (content : List UInt8) :
      (oneController content).read (Path.ofText "controllers/A.php".toList) = .ok content := by rfl
  have holdsAtTop (content : List UInt8) :
      (oneController content).read (Path.ofText "/app/controllers/A.php".toList) =
        .ok content := by rfl
  have holdsAbove (content : List UInt8) :
      (oneController content).read (Path.ofText "../app/controllers/A.php".toList) =
        .ok content := by rfl
  have foreign (text : Text) : [0x61, 0xed, 0xa0, 0x80] ≠ encode text := by
    intro same
    exact nomatch (Utf8.decode_eq_ok_iff.mpr same).symm.trans (show _ = Except.error _ from rfl)
  refine ⟨?_, ?_, ?_⟩
  · exact (document_decodes _ _).1 _ (holdsAtTop _)
  · exact (document_decodes _ _).2.1 _ (holdsAbove _) foreign
  · exact ((document_decodes _ _).2.2 _ _ (by decide) (holds _) (holds _)).2 _ rfl none none

end Tree

end IgniterLint
