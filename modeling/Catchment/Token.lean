import Catchment.Amount

/-!
# `Catchment.Token`: the words of a program

A token is a piece of the text that means something, with the line it stands on.
A number token carries the amount that it stands for.

* `Token.Kind`: what a token is.
* `Token.Kind.ofWord`, `Token.Kind.ofSign?`: what a word or a single character is.
-/

set_option autoImplicit false

namespace Catchment

/-- What a token is. -/
inductive Token.Kind (α : Type) where
  /-- The words that open a statement, and the one that sets what a dam keeps. -/
  | river | flow | capacity | flowOut | dam | release
  /-- Any other word. -/
  | identifier
  /-- A number, with the amount it stands for. -/
  | number (value : α)
  /-- The units of rain and of volume. -/
  | mm | ml
  /-- A percent sign, or a word with a percent sign right behind. -/
  | percent
  | plus | arrow | equals | comma | semicolon
  | leftParen | rightParen | leftBracket | rightBracket
deriving DecidableEq, Repr

/-- A piece of the text that means something. -/
structure Token (α : Type) where
  kind : Token.Kind α
  /-- The characters it is written with. -/
  lexeme : String
  /-- The line it stands on, counted from one. -/
  line : Nat
deriving DecidableEq, Repr

namespace Token.Kind

variable {α : Type}

/-- What a word is: the percent marker if it ends in one, a keyword, a unit, or a name. -/
def ofWord (word : List Char) : Kind α :=
  if word.getLast? = some '%' then .percent
  else
    match String.ofList word with
    | "River" => .river
    | "Flow" => .flow
    | "Capacity" => .capacity
    | "FlowOut" => .flowOut
    | "Dam" => .dam
    | "release" => .release
    | "mm" => .mm
    | "ML" => .ml
    | _ => .identifier

/-- What a single character is. -/
def ofSign? : Char → Option (Kind α)
  | '(' => some .leftParen
  | ')' => some .rightParen
  | '[' => some .leftBracket
  | ']' => some .rightBracket
  | ',' => some .comma
  | '+' => some .plus
  | ';' => some .semicolon
  | '=' => some .equals
  | '%' => some .percent
  | _ => none

end Token.Kind

namespace Decimal

/-- The value of a row of digits. -/
def digitsValue (cs : List Char) : Nat :=
  cs.foldl (fun n c => 10 * n + (c.toNat - '0'.toNat)) 0

/-- The number that digits with at most one point among them stand for. -/
def ofDigits (cs : List Char) : Decimal :=
  let whole := cs.takeWhile Char.isDigit
  let rest := (cs.dropWhile Char.isDigit).drop 1
  ⟨digitsValue (whole ++ rest), rest.length⟩

end Decimal

end Catchment
