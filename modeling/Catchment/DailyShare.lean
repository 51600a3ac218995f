import Catchment.Amount.Binary

/-!
# `Catchment.DailyShare`: how much leaves a river in a day

Water flows out of a river at a steady rate: every day the same share of what is
left. The share is chosen so that a thousandth of the water is left when the days
of outflow are over.

* `dailyShare`: the share for a number of days.
-/

set_option autoImplicit false

namespace Catchment

/-- Why there is no daily share for a number of days. -/
inductive ShareError where
  /-- There are no days to flow out in. -/
  | noDays
  /-- There are more days than a binary number can count. -/
  | tooManyDays
deriving DecidableEq, Repr

/-- What is said of a number of days without a daily share. -/
def ShareError.message : ShareError → String
  | noDays => "float division by zero"
  | tooManyDays => "int too large to convert to float"

/-- The part of its water that a river still has when the days of outflow are over. -/
def residue : Float := Amount.ofDecimal ⟨1, 3⟩

/-- The share of its water that leaves a river each day, so that only the residue is left after a
number of days. -/
def dailyShare (days : Int) : Except ShareError Float :=
  if days = 0 then .error .noDays
  else if Binary.uncountable ≤ days.natAbs then .error .tooManyDays
  else .ok (1 - residue ^ (1 / Float.ofInt days))

end Catchment
