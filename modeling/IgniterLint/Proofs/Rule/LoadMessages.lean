/-
This file says what the messages about loads of models are, when the spec's message is a template of
pieces. Each message is what the pieces stand for with the name that its call gives. The name is
copied as it stands in the text, so braces in it mean nothing.

A number in a layout can be too large to be read, and a field too wide for the memory that there is.
The check then fails as soon as there is something to report, and it fails in no other way.
-/

import IgniterLint.Proofs.Rule.CallReports
import IgniterLint.Proofs.Template.Pieces

namespace IgniterLint.Rule

open QuotedCall (findAll modelLoad IsScan)
open Template (Piece)

variable {memory : Nat} {spec : Spec} {pieces : List Piece}

theorem reportModelLoad_of_held (written : spec.message = Template.write pieces)
    (readable : ∀ piece ∈ pieces, piece.Readable) (held : ∀ piece ∈ pieces, piece.Held memory)
    (call : QuotedCall) :
    reportModelLoad memory spec call =
      .ok (Finding.ofSpec spec call.span (Template.render call.argument pieces)) := by
  rw [reportModelLoad_eq_ok_iff, written]
  exact ⟨_, Template.fill_write_of_held readable held call.argument, rfl⟩

/-- A template that cannot be read or held is not filled with any name, so a check that returns has
nothing to report. -/
theorem exists_checkModelLoads_written_iff (written : spec.message = Template.write pieces)
    {lookup : Text → Lookup} {text : Text} :
    (∃ findings, checkModelLoads memory lookup spec text = .ok findings) ↔
      ((∀ piece ∈ pieces, piece.Readable) ∧ ∀ piece ∈ pieces, piece.Held memory) ∨
        ∀ call ∈ findAll modelLoad text, (lookup call.argument).status = .found := by
  rw [exists_checkModelLoads_eq_ok_iff, written]
  simp only [Template.exists_fill_write_iff]
  constructor
  · intro filled
    refine or_iff_not_imp_right.mpr fun unanswered => ?_
    obtain ⟨call, found, unknown⟩ := not_forall₂.mp unanswered
    exact filled call found unknown
  · rintro (taken | known) call found unknown
    · exact taken
    · exact absurd (known call found) unknown

/-- A check that fails has a piece of its template to blame. -/
theorem exists_failsWith_of_checkModelLoads (written : spec.message = Template.write pieces)
    {lookup : Text → Lookup} {text : Text} {fault : Fault}
    (failed : checkModelLoads memory lookup spec text = .error fault) :
    ∃ piece ∈ pieces, ∃ cause, piece.FailsWith memory cause ∧ fault = .template cause := by
  rw [checkModelLoads_eq_mapM] at failed
  obtain ⟨call, _, unreported⟩ := exists_error_of_mapM failed
  rw [reportModelLoad, written] at unreported
  split at unreported
  · cases unreported
  · next cause unfilled =>
    obtain ⟨piece, member, fails⟩ := Template.exists_failsWith_of_fill_write unfilled
    exact ⟨piece, member, cause, fails, (Except.error.inj unreported).symm⟩

/-- Messages about loads of models are put together from the pieces of their template. The loads of
a scan that are not answered as found are reported, whoever answers. If the numbers in the layouts
of the pieces can be read and there is memory for their widths, each report has the pieces' texts as
they are, and in the places of the fields the name of its call, cut and filled up as their layouts
say. Otherwise the check fails, unless there is nothing to report, and it says whether a number
could not be read or memory was missing. -/
theorem modelLoads_reported_in_pieces (spec : Spec) (pieces : List Piece)
    (written : spec.message = Template.write pieces) (text : Text) :
    ∃ calls, IsScan "$this->load->model(".toList text calls ∧
      ∀ (memory : Nat) (lookup : Text → Lookup),
        ((∀ piece ∈ pieces, piece.Readable) → (∀ piece ∈ pieces, piece.Held memory) →
          checkModelLoads memory lookup spec text =
            .ok ((calls.filter fun call => (lookup call.argument).status ≠ .found).map fun call =>
              Finding.ofSpec spec call.span (Template.render call.argument pieces))) ∧
        ((∃ findings, checkModelLoads memory lookup spec text = .ok findings) ↔
          ((∀ piece ∈ pieces, piece.Readable) ∧ ∀ piece ∈ pieces, piece.Held memory) ∨
            ∀ call ∈ calls, (lookup call.argument).status = .found) ∧
        ∀ fault, checkModelLoads memory lookup spec text = .error fault →
          ∃ piece ∈ pieces, ∃ cause, piece.FailsWith memory cause ∧ fault = .template cause := by
  refine ⟨_, QuotedCall.isScan_findAll modelLoad text, fun memory lookup => ⟨?_, ?_, ?_⟩⟩
  · intro readable held
    rw [checkModelLoads_eq_mapM]
    exact mapM_eq_ok _ _ _ fun call _ => reportModelLoad_of_held written readable held call
  · exact exists_checkModelLoads_written_iff written
  · exact fun fault failed => exists_failsWith_of_checkModelLoads written failed

-- The message that stands by default is such a template.
example : Spec.modelMayNotExist.message =
    Template.write [.literal "Model '".toList, .field false none,
      .literal "' might not exist".toList] := by decide +kernel

/-- A brace in front of a field that is filled up with colons, and a brace behind it. -/
def bracedPieces : List Piece :=
  [.literal "\x7b".toList,
    .field false (some ⟨some ⟨some ⟨':', by decide, by decide⟩, .center⟩, some 17, some ⟨1, 9⟩⟩),
    .literal "\x7d!:".toList, .field true none]

def bracedSpec : Spec :=
  { Spec.modelMayNotExist with
    message := "\x7b\x7b\x7bname::^17.09\x7d\x7d\x7d!:\x7bname!s\x7d".toList }

-- A field of 17 characters takes memory for 17, and no more.
theorem modelLoads_reported_in_pieces_braced :
    bracedSpec.message = Template.write bracedPieces ∧
      (∀ piece ∈ bracedPieces, piece.Readable) ∧ (∀ piece ∈ bracedPieces, piece.Held 17) ∧
      ∃ findings,
        checkModelLoads 17 Registry.unaware.lookup bracedSpec
          "$this->load->model('\x7b$name\x7d_model')".toList = .ok findings ∧
        findings.map (·.message) =
          ["\x7b::::\x7b$name\x7d_m::::\x7d!:\x7b$name\x7d_model".toList] := by
  have written : bracedSpec.message = Template.write bracedPieces := by decide +kernel
  have readable : ∀ piece ∈ bracedPieces, piece.Readable := by decide +kernel
  have held : ∀ piece ∈ bracedPieces, piece.Held 17 := by decide +kernel
  obtain ⟨calls, _, reported⟩ := modelLoads_reported_in_pieces bracedSpec bracedPieces written
    "$this->load->model('\x7b$name\x7d_model')".toList
  have messages : (checkModelLoads 17 Registry.unaware.lookup bracedSpec
      "$this->load->model('\x7b$name\x7d_model')".toList).map (·.map (·.message)) =
      .ok ["\x7b::::\x7b$name\x7d_m::::\x7d!:\x7b$name\x7d_model".toList] := by
    decide +kernel
  have returned := (reported 17 Registry.unaware.lookup).1 readable held
  rw [returned] at messages
  exact ⟨written, readable, held, _, returned, Except.ok.inj messages⟩

/-- A precision that says nothing about a short name can still be too large to be read, however much
memory there is. -/
theorem checkModelLoads_layout_beyond_limit :
    Template.write [.field false (some ⟨none, none, some ⟨0, 9223372036854775808⟩⟩)] =
        "\x7bname:.9223372036854775808\x7d".toList ∧
      Template.render "a".toList
          [.field false (some ⟨none, none, some ⟨0, 9223372036854775808⟩⟩)] = "a".toList ∧
      ∀ memory, checkModelLoads memory Registry.unaware.lookup
          { Spec.modelMayNotExist with message := "\x7bname:.9223372036854775808\x7d".toList }
          "$this->load->model('a')".toList = .error (.template .numberTooLarge) := by
  refine ⟨by decide +kernel, by decide +kernel, fun memory => rfl⟩

end IgniterLint.Rule
