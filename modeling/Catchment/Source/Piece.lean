/-!
# `Catchment.Source.Piece`: a text cut into its pieces

A program text is a row of pieces: blanks, comments, words, numbers, the arrow,
the nine signs, and characters that belong to nothing. `reach` looks at what
stands at the front of a text and says what it is and how far it goes. `split`
takes that piece off and goes on with the rest.

* `split_flatten`: the pieces put together again are the text.
* `split_ne_nil`: no piece is empty.
-/

set_option autoImplicit false

namespace Catchment

/-- What a piece of text is. -/
inductive Shape where
  /-- One space, tabulator, carriage return or line end. -/
  | blank
  /-- From a number sign up to the end of the line, the line end not included. -/
  | comment
  /-- Letters, digits and underscores, no digit first, and perhaps a percent sign right behind. -/
  | word
  /-- Digits, and perhaps a point with more digits behind it. -/
  | number
  /-- A minus sign and a greater-than sign. -/
  | arrow
  /-- One of the nine single characters. -/
  | sign
  /-- A character that starts nothing, such as a minus sign without the rest of an arrow. -/
  | stray
deriving DecidableEq, Repr

/-- A piece of text. -/
structure Piece where
  shape : Shape
  text : List Char
deriving DecidableEq, Repr

namespace Piece

/-- The blanks that may stand between other pieces. -/
def isBlank (c : Char) : Bool := c == ' ' || c == '\r' || c == '\t' || c == '\n'

/-- The letters of a word. -/
def isLetter (c : Char) : Bool := c.isAlpha || c == '_'

/-- What may follow the first letter of a word. -/
def isWordChar (c : Char) : Bool := isLetter c || c.isDigit

/-- The nine characters that are pieces by themselves. -/
def isSign (c : Char) : Bool := "()[],+;=%".toList.contains c

/-- How many characters of a text are in front of the first that fails a test. -/
def run (p : Char → Bool) (cs : List Char) : Nat := (cs.takeWhile p).length

/-- How far a number goes on after its first digit. A point belongs to it only if a digit
follows. -/
def numberReach (cs : List Char) : Nat :=
  let whole := run Char.isDigit cs
  match cs.drop whole with
  | '.' :: rest => if run Char.isDigit rest = 0 then whole else whole + 1 + run Char.isDigit rest
  | _ => whole

/-- How far a word goes on after its first letter. A percent sign right behind it belongs to
it. -/
def wordReach (cs : List Char) : Nat :=
  let letters := run isWordChar cs
  if (cs.drop letters).head? = some '%' then letters + 1 else letters

/-- What stands at the front of a text, and how many characters after the first belong to it. -/
def reach (c : Char) (cs : List Char) : Shape × Nat :=
  if isBlank c then (.blank, 0)
  else if c = '#' then (.comment, run (· != '\n') cs)
  else if c.isDigit then (.number, numberReach cs)
  else if isLetter c then (.word, wordReach cs)
  else if c = '-' then if cs.head? = some '>' then (.arrow, 1) else (.stray, 0)
  else if isSign c then (.sign, 0)
  else (.stray, 0)

/-- The pieces of a text, in order. -/
def split : List Char → List Piece
  | [] => []
  | c :: cs =>
    let (shape, n) := reach c cs
    ⟨shape, c :: cs.take n⟩ :: split (cs.drop n)
termination_by cs => cs.length
decreasing_by simp only [List.length_drop, List.length_cons]; omega

/-- The pieces put together again are the text. -/
theorem split_flatten (cs : List Char) : ((split cs).map (·.text)).flatten = cs := by
  fun_induction split cs with
  | case1 => rfl
  | case2 c cs shape n _ ih => simp [ih]

/-- No piece is empty. -/
theorem split_ne_nil (cs : List Char) : ∀ p ∈ split cs, p.text ≠ [] := by
  fun_induction split cs with
  | case1 => simp
  | case2 c cs shape n _ ih =>
    intro p hp
    rcases List.mem_cons.mp hp with h | h
    · simp [h]
    · exact ih p h

/-- How many lines a piece ends. -/
def lineEnds (p : Piece) : Nat := p.text.count '\n'

end Piece

end Catchment
