/-
This file finds calls with one quoted argument, such as `$this->load->model('name')`. A call is
recognised by its opening words, up to and including the parenthesis. Behind them stand a quotation
mark, an argument that is not empty and has no quotation mark in it, a quotation mark, and the
closing parenthesis. The two marks need not be the same. Calls are found from the left, and the
search goes on behind the call found last.
-/

import IgniterLint.Text.Span

namespace IgniterLint

/-- A call in a text: where it starts, its argument, and how many characters it takes up. -/
structure QuotedCall where
  offset : Nat
  argument : Text
  length : Nat
deriving DecidableEq, Repr

namespace QuotedCall

/-- Whether the character is a quotation mark. -/
def isMark (c : Char) : Bool := c == '\x27' || c == '\x22'

/-- The argument of a call that starts at the front of the text. -/
def argumentAt? (opening text : Text) : Option Text :=
  match Text.after? opening text with
  | some (mark :: rest) =>
    let argument := rest.takeWhile fun c => !isMark c
    match rest.dropWhile fun c => !isMark c with
    | _ :: ')' :: _ => if isMark mark && !argument.isEmpty then some argument else none
    | _ => none
  | _ => none

/-- How many characters a call takes up: its opening, two marks, the argument, a parenthesis. -/
def lengthOf (opening argument : Text) : Nat := opening.length + argument.length + 3

/-- The calls in what remains of a text. The remainder starts at `offset`, and its first `skip`
characters belong to the call found last. -/
def findFrom (opening : Text) : (offset skip : Nat) → Text → List QuotedCall
  | _, _, [] => []
  | offset, skip + 1, _ :: rest => findFrom opening (offset + 1) skip rest
  | offset, 0, c :: rest =>
    match argumentAt? opening (c :: rest) with
    | some argument =>
      ⟨offset, argument, lengthOf opening argument⟩ ::
        findFrom opening (offset + 1) (lengthOf opening argument - 1) rest
    | none => findFrom opening (offset + 1) 0 rest

/-- Skipping is the same as starting further on. -/
theorem findFrom_skip (opening : Text) (offset skip : Nat) (text : Text) :
    findFrom opening offset skip text = findFrom opening (offset + skip) 0 (text.drop skip) := by
  induction text generalizing offset skip with
  | nil => simp [findFrom]
  | cons c rest inductionHypothesis =>
    cases skip with
    | zero => rfl
    | succ skip =>
      rw [findFrom, inductionHypothesis, List.drop_succ_cons, Nat.add_assoc, Nat.add_comm 1 skip]

/-- The calls in a text, from the left. -/
def findAll (opening text : Text) : List QuotedCall := findFrom opening 0 0 text

/-- The stretch of the text that the call takes up. -/
def span (call : QuotedCall) : Span := Span.ofLength call.offset call.length

/-- The opening words of a call that loads a model. -/
def modelLoad : Text := "$this->load->model(".toList

/-- The opening words of a call that runs a query written out by hand. -/
def directQuery : Text := "$this->db->query(".toList

end QuotedCall

end IgniterLint
