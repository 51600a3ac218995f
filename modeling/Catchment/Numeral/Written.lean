import Catchment.Amount.Binary

/-!
# `Catchment.Numeral.Written`: numbers written out

A number may be written with a sign, a point and a power of ten, or be one of the
words for what no digits stand for. `Written.ofText?` reads such a number, and
`Written.toBinary` gives the nearest binary number.

* `Written.ofText?`: the number that a text writes out.
* `Written.toBinary`: the nearest binary number.
-/

set_option autoImplicit false

namespace Catchment

/-- A number as it is written out. -/
inductive Written where
  /-- Digits times a power of ten, with a sign. -/
  | finite (negative : Bool) (digits : Nat) (exponent : Int)
  | infinite (negative : Bool)
  | undefined
deriving DecidableEq, Repr

namespace Written

/-- Whether a character is a hexadecimal digit. -/
def isHex (c : Char) : Bool :=
  c.isDigit || ('a' ≤ c && c ≤ 'f') || ('A' ≤ c && c ≤ 'F')

/-- The value of a row of digits in a base. -/
def ofBase (base : Nat) (cs : List Char) : Nat :=
  cs.foldl (fun n c =>
    let digit :=
      if c.isDigit then c.toNat - '0'.toNat
      else if c.isLower then c.toNat - 'a'.toNat + 10
      else c.toNat - 'A'.toNat + 10
    base * n + digit) 0

/-- A sign in front of a text, and the rest of the text. -/
def splitSign : List Char → Bool × List Char
  | '-' :: cs => (true, cs)
  | '+' :: cs => (false, cs)
  | cs => (false, cs)

/-- A whole number in decimal digits, with or without a sign. -/
def integer? (cs : List Char) : Option Int :=
  let (negative, digits) := splitSign cs
  if digits ≠ [] ∧ digits.all Char.isDigit then
    let n := ofBase 10 digits
    some (if negative then -(n : Int) else n)
  else none

/-- Digits with a point among them or at one of their ends, without a sign, times a power of
ten. -/
def decimal? (negative : Bool) (cs : List Char) (exponent : Int) : Option Written :=
  let whole := cs.takeWhile Char.isDigit
  let rest := cs.dropWhile Char.isDigit
  let part := match rest with
    | [] => some []
    | '.' :: part => if part.all Char.isDigit then some part else none
    | _ => none
  match part with
  | none => none
  | some part =>
    if whole = [] ∧ part = [] then none
    else some (.finite negative (ofBase 10 (whole ++ part)) (exponent - part.length))

/-- A number in digits, with or without a sign, a point and a power of ten, or one of the words
for an infinity and for no number. Letters may be of either case. -/
def ofText? (text : List Char) : Option Written :=
  let (negative, cs) := splitSign (text.map Char.toLower)
  match String.ofList cs with
  | "inf" | "infinity" => some (.infinite negative)
  | "nan" => some .undefined
  | _ =>
    let mantissa := cs.takeWhile (· ≠ 'e')
    match cs.dropWhile (· ≠ 'e') with
    | [] => decimal? negative mantissa 0
    | _ :: power =>
      match integer? power with
      | some exponent => decimal? negative mantissa exponent
      | none => none

/-- The binary number nearest to digits times a power of ten. A power so large or so small that
the digits no longer matter is not multiplied out. -/
def scaledBinary (digits : Nat) (exponent : Int) : Float :=
  let magnitude : Int := (Nat.toDigits 10 digits).length + exponent
  if digits = 0 ∨ magnitude < -400 then 0
  else if 400 < magnitude then 1 / 0
  else Float.ofScientific digits (decide (exponent < 0)) exponent.natAbs

/-- The nearest binary number. -/
def toBinary : Written → Float
  | finite negative digits exponent =>
    let size := scaledBinary digits exponent
    if negative then -size else size
  | infinite negative => if negative then -1 / 0 else 1 / 0
  | undefined => 0 / 0

end Written

end Catchment
