import Catchment.Amount

/-!
# `Catchment.Amount.Exact`: amounts that are rational numbers

In the rationals no rounding takes place, and a batch may be added up in any
order. This is the arithmetic in which the laws of the library are stated.
-/

set_option autoImplicit false

namespace Catchment

/-- The rationals, with their own operations. -/
instance : Amount Rat where
  toAdd := Rat.instAdd
  toSub := Rat.instSub
  toMul := Rat.instMul
  toDiv := Rat.instDiv
  toLT := Rat.instLT
  toLE := Rat.instLE
  toBEq := instBEqOfDecidableEq
  toNatCast := Rat.instNatCast
  decidableLT := Rat.instDecidableLt
  decidableLE := Rat.instDecidableLe
  ofDecimal d := mkRat d.digits (Nat.pow 10 d.places)
  batchTotal xs := xs.foldl Rat.add 0
  numeral r := .finite (decide (r.num < 0)) r.num.natAbs r.den

end Catchment
