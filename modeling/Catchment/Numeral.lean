/-!
# `Catchment.Numeral`: the exact value of an amount, and its texts

An amount of water is written in three ways: with a set number of places, with
six significant digits, and cut to a whole number. All three are read off the
exact value of the amount, so they do not depend on the arithmetic that made it.
`Numeral` is that exact value: a signed fraction, an infinity, or no number.

* `roundDiv`: a quotient rounded to the nearest whole number, a half to the even neighbour.
* `Numeral.fixed`: the text with a set number of places.
* `Numeral.general`: the text with six significant digits.
* `Numeral.truncate`: the whole part, toward zero.
* `roundDiv_near`: the rounded quotient is within half a unit of the quotient.
* `roundDiv_exact`: a quotient that is whole is not changed by rounding.
-/

set_option autoImplicit false

namespace Catchment

/-- `num / den`, rounded to the nearest whole number, a half to the even neighbour. -/
def roundDiv (num den : Nat) : Nat :=
  let quotient := num / den
  let twice := 2 * (num % den)
  if twice < den then quotient
  else if den < twice then quotient + 1
  else if quotient % 2 = 0 then quotient
  else quotient + 1

/-- The rounded quotient is within half a unit of the quotient. -/
theorem roundDiv_near (num den : Nat) (h : 0 < den) :
    2 * num ≤ 2 * (roundDiv num den * den) + den ∧
      2 * (roundDiv num den * den) ≤ 2 * num + den := by
  have hd := Nat.div_add_mod num den
  have hm := Nat.mod_lt num h
  have hc : num / den * den = den * (num / den) := Nat.mul_comm _ _
  unfold roundDiv
  simp only
  split
  · constructor <;> omega
  · split
    · rw [Nat.add_mul, Nat.one_mul]
      constructor <;> omega
    · split
      · constructor <;> omega
      · rw [Nat.add_mul, Nat.one_mul]
        constructor <;> omega

/-- A quotient that is whole is not changed by rounding. -/
theorem roundDiv_exact (q den : Nat) (h : 0 < den) : roundDiv (q * den) den = q := by
  simp [roundDiv, Nat.mul_div_cancel q h, h]

/-- The exact value of an amount. -/
inductive Numeral where
  /-- The fraction `num / den`, with its sign. Zero has a sign too. -/
  | finite (negative : Bool) (num den : Nat)
  /-- Larger than every number, or smaller than every number. -/
  | infinite (negative : Bool)
  /-- The outcome of a calculation that has none, such as an infinity less itself. -/
  | undefined
deriving DecidableEq, Repr

namespace Numeral

/-- Why an amount has no whole part. -/
inductive NoWholePart where
  | infinite
  | undefined
deriving DecidableEq, Repr

/-- What is said of an amount without a whole part. -/
def NoWholePart.message : NoWholePart → String
  | infinite => "cannot convert float infinity to integer"
  | undefined => "cannot convert float NaN to integer"

/-- The whole part of an amount, toward zero. -/
def truncate : Numeral → Except NoWholePart Int
  | finite negative num den =>
      .ok (if negative then -((num / den : Nat) : Int) else (num / den : Nat))
  | infinite _ => .error .infinite
  | undefined => .error .undefined

/-! ## Texts -/

/-- The sign in front of a text. -/
def signText (negative : Bool) : String := if negative then "-" else ""

/-- A whole number, with noughts in front up to a width. -/
def padded (width n : Nat) : List Char :=
  let digits := Nat.toDigits 10 n
  List.replicate (width - digits.length) '0' ++ digits

/-- The text with `places` digits after the point. The point is left out where no digit
follows. -/
def fixed (places : Nat) : Numeral → String
  | finite negative num den =>
    let digits := padded (places + 1) (roundDiv (num * Nat.pow 10 places) den)
    let whole := digits.take (digits.length - places)
    let rest := digits.drop (digits.length - places)
    signText negative ++ String.ofList (if places = 0 then whole else whole ++ '.' :: rest)
  | infinite negative => signText negative ++ "inf"
  | undefined => "nan"

/-- `num / den` scaled by a power of ten, as a fraction again. -/
def scaled (num den : Nat) : Int → Nat × Nat
  | .ofNat k => (num * Nat.pow 10 k, den)
  | .negSucc k => (num, den * Nat.pow 10 (k + 1))

/-- The power of ten that the first significant digit of `num / den` stands for, for a quotient
above zero. The lengths of the two numbers leave two candidates. -/
def magnitude (num den : Nat) : Int :=
  let gap : Int := (Nat.toDigits 10 num).length - (Nat.toDigits 10 den).length
  let (a, b) := scaled num den (-gap)
  if b ≤ a then gap else gap - 1

/-- The first `count + 1` significant digits of `num / den`, as one whole number, and the power of
ten that the first of them stands for. -/
def significant (count num den : Nat) : Nat × Int :=
  let e := magnitude num den
  let (a, b) := scaled num den (count - e)
  let digits := roundDiv a b
  if digits = Nat.pow 10 (count + 1) then (Nat.pow 10 count, e + 1) else (digits, e)

/-- A list of digits without the noughts at its end. -/
def trimmed (digits : List Char) : List Char :=
  (digits.reverse.dropWhile (· == '0')).reverse

/-- Digits before and after a point, without a point where none follow. -/
def pointed (whole rest : List Char) : List Char :=
  match trimmed rest with
  | [] => whole
  | rest' => whole ++ '.' :: rest'

/-- An exponent, with its sign and at least two digits. -/
def exponentText (e : Int) : List Char :=
  'e' :: (if e < 0 then '-' else '+') :: padded 2 e.natAbs

/-- The digits of a quotient above zero with six significant digits. Noughts at the end are left
out. From a ten-thousandth up to a million the digits stand around the point;
otherwise a power of ten follows. -/
def generalDigits (num den : Nat) : List Char :=
  let (n, e) := significant 5 num den
  let digits := padded 6 n
  if e < -4 ∨ 6 ≤ e then
    pointed (digits.take 1) (digits.drop 1) ++ exponentText e
  else if e < 0 then
    pointed ['0'] (List.replicate (e.natAbs - 1) '0' ++ digits)
  else
    pointed (digits.take (e.natAbs + 1)) (digits.drop (e.natAbs + 1))

/-- The text with six significant digits. -/
def general : Numeral → String
  | finite negative num den =>
    signText negative ++ (if num = 0 then "0" else String.ofList (generalDigits num den))
  | infinite negative => signText negative ++ "inf"
  | undefined => "nan"

end Numeral

end Catchment
