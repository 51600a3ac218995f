import Mathlib.Data.Real.Basic
import Catchment.Proofs.Exact

/-!
# `Catchment.Proofs.Amount.Real`: amounts that are real numbers

The real numbers are an ordered field that has the roots which the rationals lack. So they
are amounts in which every network has its daily share.
-/

set_option autoImplicit false

namespace Catchment

open Classical in
/-- The reals, with their own operations. What is written of a real number is written of the
rational number that it is. One that is none has no digits to write out. -/
noncomputable instance : Amount.Exact ℝ where
  ofDecimal d := ((Amount.ofDecimal d : Rat) : ℝ)
  numeral a := if h : ∃ q : Rat, (q : ℝ) = a then Amount.numeral h.choose else .undefined
  ofDecimal_eq _ := rfl
  numeral_cast q := by
    have h : ∃ p : Rat, (p : ℝ) = (q : ℝ) := ⟨q, rfl⟩
    rw [dif_pos h, Rat.cast_injective h.choose_spec]

end Catchment
