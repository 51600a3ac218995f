import Catchment.Failure
import Catchment.Proofs.Amount.Finite
import Catchment.Proofs.Network.Declared

/-!
# `Catchment.Proofs.Network.Stopped`: what stops the statements of a program

A statement that goes wrong is reported to the author of the text, with two
exceptions: rain on more days than a record can have, and days of outflow that have no
whole part. So where all amounts of a program are finite, only the first is left. The
days of outflow of a network are the shortest there are, or the whole part of an amount.

* `Expr.error_evaluate`: what goes wrong in an expression.
* `Network.error_declare`, `Network.error_execute`: what goes wrong in a statement, and in all of
  them.
* `Network.error_execute_of_finite`: what is not reported where all amounts are finite.
* `Network.outflowDays_execute`: the days of outflow after the statements of a program.
-/

set_option autoImplicit false

namespace Catchment

variable {α : Type} [Amount α]

/-- An expression goes wrong only where it names what is not declared. -/
theorem Expr.error_evaluate {declared : String → Bool} {e : Expr α} {error : EvaluationError α}
    (h : (e.evaluate declared).result = .error error) :
    ∃ name line, error = .undefined name line := by
  induction e with
  | number | rain | series => cases h
  | reference name line =>
    unfold evaluate at h
    split at h
    · cases h
    · cases h
      exact ⟨name, line, rfl⟩
  | group e line ih => exact ih h
  | binary operator left right line ihl ihr =>
    rcases error_binary h with hleft | hright
    · exact ihl hleft
    · exact ihr hright

namespace Network

/-- What may be passed on of a statement is that it asks for rain on too many days, or for outflow
on a number of days without a whole part. -/
def PassedOn (error : EvaluationError α) (s : Statement α) : Prop :=
  error.IsRainTooLong ∨ ∃ days reason, s.declares = .flowOut days ∧
    Amount.truncate days = .error reason ∧ error = .outflowNotWhole reason

variable {n : Network α} {error : EvaluationError α}

/-- A statement that goes wrong is reported, unless it may be passed on. -/
theorem error_declare {s : Statement α} (h : (n.declare s).error = some error) :
    error.failure?.isSome ∨ PassedOn error s := by
  have houtcome := n.outcome_declare s
  rw [h] at houtcome
  generalize (n.declare s).network = m at houtcome
  cases houtcome with
  | undefined _ he =>
    obtain ⟨name, line, rfl⟩ := Expr.error_evaluate he
    exact Or.inl rfl
  | undeclared | outflowTooShort | releaseOutOfRange => exact Or.inl rfl
  | overrun | stranded => exact Or.inr (Or.inl trivial)
  | outflowNotWhole hdays => exact Or.inr (Or.inr ⟨_, _, rfl, hdays, rfl⟩)

/-- What goes wrong in the statements of a program is reported, unless it may be passed on of one
of them. -/
theorem error_execute {statements : List (Statement α)}
    (h : (n.execute statements).error = some error) :
    error.failure?.isSome ∨ ∃ s ∈ statements, PassedOn error s := by
  obtain ⟨done, s, rest, rfl, -, hs⟩ := error_execute_eq_some_iff.mp h
  rcases error_declare hs with hreported | hpassed
  · exact Or.inl hreported
  · exact Or.inr ⟨s, List.mem_append_right _ List.mem_cons_self, hpassed⟩

/-- Where all amounts are finite, what goes wrong is reported, unless it rains on too many
days. -/
theorem error_execute_of_finite {statements : List (Statement α)}
    (hfinite : ∀ s ∈ statements, s.declares.All Amount.IsFinite)
    (h : (n.execute statements).error = some error) :
    error.failure?.isSome ∨ error.IsRainTooLong := by
  rcases error_execute h with hreported | ⟨s, hs, hrain | ⟨days, reason, hdeclares, herror, -⟩⟩
  · exact Or.inl hreported
  · exact Or.inr hrain
  · have hdays : Amount.IsFinite days := by
      have hall := hfinite s hs
      rw [hdeclares] at hall
      exact hall
    obtain ⟨whole, hwhole⟩ := Amount.exists_truncate_eq_ok hdays
    rw [hwhole] at herror
    cases herror

/-! ### The days of outflow -/

section
variable {P : Nat → Prop}

/-- A statement keeps a property of the days of outflow that all days which may be declared
have. -/
theorem outflowDays_declare (hn : P n.outflowDays)
    (hdeclared : ∀ {days : α} {whole : Int}, Amount.truncate days = .ok whole →
      (shortestOutflow : Int) ≤ whole → P whole.toNat)
    (s : Statement α) : P (n.declare s).network.outflowDays := by
  have houtcome := n.outcome_declare s
  generalize (n.declare s).network = m, (n.declare s).error = error at houtcome
  cases houtcome with
  | outflow hdays hlong => exact hdeclared hdays hlong
  | _ => exact hn

/-- So do all statements together. -/
theorem outflowDays_execute (hn : P n.outflowDays)
    (hdeclared : ∀ {days : α} {whole : Int}, Amount.truncate days = .ok whole →
      (shortestOutflow : Int) ≤ whole → P whole.toNat)
    (statements : List (Statement α)) : P (n.execute statements).network.outflowDays := by
  induction statements generalizing n with
  | nil => exact hn
  | cons s rest ih =>
    have hfirst : P (n.declare s).network.outflowDays := outflowDays_declare hn hdeclared s
    unfold execute
    cases herror : (n.declare s).error with
    | some _ =>
      simp only [herror]
      exact hfirst
    | none =>
      simp only [herror]
      exact ih hfirst

end

end Network

end Catchment
