import Catchment.Numeral

/-!
# `Catchment.Amount`: the arithmetic of water

Every rule of the library, from the sum of two literals to the release of a dam,
is written once, for any type of amounts. `Amount α` lists what such a type
offers. Two types do: the rationals, in which the rules hold to the letter, and
the binary floating-point numbers, in which the rules are run.

The two differ in how a batch is added up and in what no rational is: an
infinity, and a value without a number. So comparisons are asked in the direction
that a rule needs, and `larger` and `smaller` say which of two incomparable
amounts they keep.

* `Amount.larger`, `Amount.smaller`: the first of two amounts, unless the second is beyond it.
* `Amount.total`: plain addition from left to right.
* `Amount.truncate`: the whole part of an amount.
-/

set_option autoImplicit false

namespace Catchment

/-- A number as it is written: its digits without the point, and how many of them follow it. -/
structure Decimal where
  digits : Nat
  places : Nat
deriving DecidableEq, Repr

/-- What a type of amounts offers. -/
class Amount (α : Type) extends Add α, Sub α, Mul α, Div α, LT α, LE α, BEq α, NatCast α where
  decidableLT : DecidableLT α
  decidableLE : DecidableLE α
  /-- The amount that a written number stands for. -/
  ofDecimal : Decimal → α
  /-- The sum of a batch, in the order of addition that suits the type. -/
  batchTotal : List α → α
  /-- The exact value. -/
  numeral : α → Numeral

namespace Amount

attribute [reducible, instance] Amount.decidableLT Amount.decidableLE

/-- Whole numbers may be written where an amount is expected. -/
instance (priority := low) instOfNat {α : Type} [Amount α] (n : Nat) : OfNat α n :=
  ⟨(n : α)⟩

variable {α : Type} [Amount α]

/-- The larger of two amounts: the first, unless the second is above it. -/
def larger (a b : α) : α := if a < b then b else a

/-- The smaller of two amounts: the first, unless the second is below it. -/
def smaller (a b : α) : α := if b < a then b else a

/-- The sum of amounts, added one after the other. -/
def total (xs : List α) : α := xs.foldl (· + ·) 0

/-- The whole part of an amount, toward zero. -/
def truncate (a : α) : Except Numeral.NoWholePart Int := (numeral a).truncate

/-- The text of an amount with six significant digits. -/
def general (a : α) : String := (numeral a).general

/-- The text of an amount with a set number of places. -/
def fixed (places : Nat) (a : α) : String := (numeral a).fixed places

end Amount

end Catchment
