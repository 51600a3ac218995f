import Catchment.Amount

/-!
# `Catchment.Proofs.Amount.Finite`: amounts that are numbers

An amount may be no number, or beyond all numbers. A finite amount is neither, and so
it has a whole part.

* `Numeral.IsFinite`, `Amount.IsFinite`: what it is to be finite.
* `Numeral.IsInfinite`, `Amount.IsInfinite`: what it is to be beyond all numbers.
* `Amount.exists_truncate_eq_ok`: the whole part of a finite amount.
-/

set_option autoImplicit false

namespace Catchment

namespace Numeral

/-- Whether a value is a fraction. -/
def IsFinite : Numeral → Prop
  | finite .. => True
  | infinite _ | undefined => False

/-- Whether a value is larger or smaller than every number. -/
def IsInfinite : Numeral → Prop
  | infinite _ => True
  | finite .. | undefined => False

instance : DecidablePred IsFinite
  | finite .. => isTrue trivial
  | infinite _ | undefined => isFalse id

instance : DecidablePred IsInfinite
  | infinite _ => isTrue trivial
  | finite .. | undefined => isFalse id

/-- A value that is neither infinite nor undefined is finite. -/
theorem isFinite_of_not_isInfinite {x : Numeral} (h : ¬x.IsInfinite) (hdefined : x ≠ undefined) :
    x.IsFinite := by
  cases x with
  | finite => trivial
  | infinite _ => exact absurd trivial h
  | undefined => exact absurd rfl hdefined

end Numeral

namespace Amount

variable {α : Type} [Amount α]

/-- Whether an amount is finite. -/
def IsFinite (v : α) : Prop := (numeral v).IsFinite

/-- Whether an amount is infinite. -/
def IsInfinite (v : α) : Prop := (numeral v).IsInfinite

instance : DecidablePred (IsFinite (α := α)) :=
  fun v => inferInstanceAs (Decidable (numeral v).IsFinite)

instance : DecidablePred (IsInfinite (α := α)) :=
  fun v => inferInstanceAs (Decidable (numeral v).IsInfinite)

/-- A finite amount has a whole part. -/
theorem exists_truncate_eq_ok {v : α} (h : IsFinite v) : ∃ days, truncate v = .ok days := by
  unfold IsFinite at h
  unfold truncate
  cases hv : numeral v with
  | finite negative num den => exact ⟨_, rfl⟩
  | infinite _ | undefined =>
    rw [hv] at h
    exact h.elim

/-- An amount that is defined lacks a whole part only if it is infinite. -/
theorem truncate_eq_error_iff {v : α} {reason : Numeral.NoWholePart}
    (hdefined : numeral v ≠ .undefined) :
    truncate v = .error reason ↔ reason = .infinite ∧ IsInfinite v := by
  unfold truncate IsInfinite
  cases hv : numeral v with
  | finite negative num den => exact iff_of_false nofun (fun h => h.2)
  | infinite negative =>
    constructor
    · intro h
      cases h
      exact ⟨rfl, trivial⟩
    · rintro ⟨rfl, -⟩
      rfl
  | undefined => exact absurd hv hdefined

end Amount

end Catchment
