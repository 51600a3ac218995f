import Catchment.Source.Piece
import Catchment.Token

/-!
# `Catchment.Token.Scan`: the tokens of a text

Every word, number, arrow and sign of a text is a token. Blanks and comments are
not. A character that starts nothing is a fault, and a text is always read to its
end, so one reading finds every fault.

* `Scan.ofText`: the tokens and faults of a text, and the line it ends on.
-/

set_option autoImplicit false

namespace Catchment

/-- Why a character is not read. -/
inductive StrayCharacter where
  /-- A minus sign without the rest of an arrow. -/
  | brokenArrow
  /-- A character that starts nothing. -/
  | unexpected (c : Char)
deriving DecidableEq, Repr

/-- Why a character at the front of a text starts nothing. -/
def StrayCharacter.ofChar (c : Char) : StrayCharacter :=
  if c = '-' then .brokenArrow else .unexpected c

/-- What is said of a character that is not read. -/
def StrayCharacter.message : StrayCharacter → String
  | brokenArrow => "Expected '>' after '-'."
  | unexpected c => "Unexpected character: " ++ c.toString

/-- What reading a text gives. -/
structure Scan (α : Type) where
  /-- The tokens, in order. -/
  tokens : List (Token α)
  /-- The characters that were not read, with their lines, in order. -/
  faults : List (Nat × StrayCharacter)
  /-- The line on which the text ends. -/
  endLine : Nat
deriving DecidableEq, Repr

namespace Scan

variable {α : Type} [Amount α]

/-- The token that a piece is, if it is one. -/
def tokenKind? (p : Piece) : Option (Token.Kind α) :=
  match p.shape with
  | .word => some (Token.Kind.ofWord p.text)
  | .number => some (.number (Amount.ofDecimal (Decimal.ofDigits p.text)))
  | .arrow => some .arrow
  | .sign => p.text.head?.bind Token.Kind.ofSign?
  | .blank | .comment | .stray => none

/-- The fault that a piece is, if it is one. -/
def fault? (p : Piece) : Option StrayCharacter :=
  match p.shape with
  | .stray => p.text.head?.map StrayCharacter.ofChar
  | .blank | .comment | .word | .number | .arrow | .sign => none

/-- What a row of pieces gives that starts on a line. -/
def ofPieces (line : Nat) : List Piece → Scan α
  | [] => ⟨[], [], line⟩
  | p :: ps =>
    let rest := ofPieces (line + p.lineEnds) ps
    { tokens :=
        ((tokenKind? p).map fun k => ⟨k, String.ofList p.text, line⟩).toList ++ rest.tokens
      faults := ((fault? p).map fun f => (line, f)).toList ++ rest.faults
      endLine := rest.endLine }

/-- The tokens and faults of a text, and the line it ends on. -/
def ofText (text : String) : Scan α := ofPieces 1 (Piece.split text.toList)

end Scan

end Catchment
