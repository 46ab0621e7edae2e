/-
This file fixes how the library holds text. A text is the list of its characters, so an offset
counts code points, and taking a text apart is recursion on a list. Two searches serve everything
else: taking a word off the front, and asking whether a word occurs. Classes of characters are
tables of code ranges, read here in one way.
-/

namespace IgniterLint

/-- A text is the list of its characters; offsets and lengths count them. -/
abbrev Text := List Char

namespace Text

/-- The decimal numeral of a natural number. -/
def ofNat (n : Nat) : Text := Nat.toDigits 10 n

/-- The decimal numeral of an integer, with a minus sign in front of a negative one. -/
def ofInt : Int → Text
  | .ofNat n => ofNat n
  | .negSucc n => '-' :: ofNat (n + 1)

/-- What follows `word` in a text that starts with it. -/
def after? : Text → Text → Option Text
  | [], text => some text
  | _ :: _, [] => none
  | w :: word, c :: text => if w = c then after? word text else none

theorem after?_eq_some_iff (word text rest : Text) :
    after? word text = some rest ↔ text = word ++ rest := by
  induction word generalizing text with
  | nil => simp [after?]
  | cons w word inductionHypothesis =>
    cases text with
    | nil => simp [after?]
    | cons c text =>
      by_cases same : w = c
      · simp [after?, same, inductionHypothesis]
      · simp [after?, same, Ne.symm same]

/-- Whether `word` stands somewhere in the text, as one unbroken piece. -/
def occursIn (word : Text) : Text → Bool
  | [] => word.isEmpty
  | c :: rest => word.isPrefixOf (c :: rest) || occursIn word rest

theorem occursIn_iff (word text : Text) : occursIn word text = true ↔ word <:+: text := by
  induction text with
  | nil => simp [occursIn]
  | cons c rest inductionHypothesis =>
    rw [occursIn, Bool.or_eq_true, inductionHypothesis, List.isPrefixOf_iff_prefix,
      List.infix_cons_iff]

/-- Texts joined by a separator between neighbours. -/
def joinWith (separator : Text) : List Text → Text
  | [] => []
  | [last] => last
  | first :: second :: rest => first ++ separator ++ joinWith separator (second :: rest)

/-- Whether a text comes before another, or equals it, by the code points of its characters; a
proper beginning of a text comes before it. -/
def precedes : Text → Text → Bool
  | [], _ => true
  | _ :: _, [] => false
  | a :: first, b :: second =>
    if a.toNat < b.toNat then true else if b.toNat < a.toNat then false else precedes first second

/-- Whether the character's code lies in one of the listed ranges, ends included. -/
def inRanges (ranges : List (Nat × Nat)) (c : Char) : Bool :=
  ranges.any fun range => range.1 ≤ c.toNat && c.toNat ≤ range.2

end Text

end IgniterLint
