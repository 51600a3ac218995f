import Catchment.Proofs.Network.Declared
import Catchment.Proofs.Network.Stopped

/-!
# `Catchment.Proofs.Network.Overrun`: what is not reported of a statement

Two things that go wrong in a statement are not reported. Days of outflow may have no
whole part, and a record of rain may be too long. A record is that of a river to which
rain on a number of days is given, or that of the dry days of a dam. Rain is given as it
is written: no operator makes any.

* `Expr.rainOver?`: the rain on a number of days that an expression is.
* `Network.Overruns`: a statement asks for a record that is too long.
* `error_declare_eq_outflowNotWhole_iff`, `error_declare_eq_rainTooLong_iff`: when a statement
  goes wrong in either way.
-/

set_option autoImplicit false

namespace Catchment

variable {α : Type}

/-- The rain on a number of days that an expression is, parentheses aside. -/
def Expr.rainOver? : Expr α → Option (α × Int)
  | rain amount days _ => some (amount, days)
  | group e _ => e.rainOver?
  | number .. | series .. | reference .. | binary .. => none

variable [Amount α]

/-- No operator makes rain over some days of its operands. -/
theorem Operator.value_ne_rain (operator : Operator) (a b : Value α) (amount : α) (days : Int) :
    operator.value a b ≠ .rain amount days := by
  cases operator with
  | plus =>
    show a.add b ≠ _
    unfold Value.add
    split
    · rintro ⟨⟩
    · split <;> rintro ⟨⟩
  | arrow =>
    show a.connect b ≠ _
    unfold Value.connect
    split <;> rintro ⟨⟩

/-- An expression stands for rain on a number of days only as it is written. -/
theorem Expr.result_eq_rain_iff {declared : String → Bool} {e : Expr α} {amount : α}
    {days : Int} :
    (e.evaluate declared).result = .ok (.rain amount days) ↔
      e.rainOver? = some (amount, days) := by
  -- The induction is on the expression.
  induction e with
  | number | series => exact iff_of_false (by rintro ⟨⟩) (by rintro ⟨⟩)
  | rain amount' days' line =>
    show Except.ok (Value.rain amount' days') = .ok (.rain amount days) ↔
      some (amount', days') = _
    simp
  | reference name line =>
    refine iff_of_false ?_ (by rintro ⟨⟩)
    unfold evaluate
    split <;> rintro ⟨⟩
  | group e line ih => exact ih
  | binary operator left right line =>
    refine iff_of_false (fun h => ?_) (by rintro ⟨⟩)
    obtain ⟨a, b, -, -, heq⟩ := result_binary_eq_ok_iff.mp h
    exact operator.value_ne_rain a b amount days heq.symm

omit [Amount α] in
/-- A river does not take a value exactly if it is rain on too many days. -/
theorem River.receive_eq_error_iff {r : River α} {v : Value α} {reason : RainError} :
    r.receive v = .error reason ↔
      ∃ amount days, v = .rain amount days ∧ recordLength days = .error reason := by
  cases v with
  | rain amount days =>
    constructor
    · intro h
      exact ⟨amount, days, rfl, addRain_eq_error_iff.mp h⟩
    · rintro ⟨amount', days', heq, hlength⟩
      cases heq
      exact addRain_eq_error_iff.mpr hlength
  | number | series | river | rivers | flow | nothing =>
    exact iff_of_false nofun (by rintro ⟨_, _, ⟨⟩, _⟩)

namespace Network

variable {n : Network α} {s : Statement α} {reason : RainError}

/-- A statement asks for a record that is too long: that of a river to which it gives rain on a
number of days, or that of the dry days of a dam. -/
def Overruns (n : Network α) (s : Statement α) (reason : RainError) : Prop :=
  n.Strands s reason ∨
    ∃ e amount days, (s.declares = .river e ∨ s.declares = .update e ∧ s.name ∈ n.rivers.keys) ∧
      e.rainOver? = some (amount, days) ∧ River.recordLength days = .error reason

/-- A statement that gives an expression to a river asks for a record that is too long if the
expression is rain on too many days. -/
theorem Gives.overruns_iff {e : Expr α} {r : River α} (h : n.Gives s e r) :
    n.Overruns s reason ↔
      ∃ amount days, e.rainOver? = some (amount, days) ∧
        River.recordLength days = .error reason := by
  cases h with
  | river => simp [Overruns, Strands]
  | @update name _ _ _ hold =>
    have hname : name ∈ n.rivers.keys := (Table.mem_keys _ _).mpr ⟨r, hold⟩
    simp [Overruns, Strands, hname]

/-- A dam asks for a record that is too long if there is no room for its dry days. -/
theorem overruns_dam_iff {name : String} {line : Int} {capacity release : α} :
    n.Overruns ⟨name, line, .dam capacity release⟩ reason ↔
      (0 ≤ release ∧ release ≤ 100) ∧
        (River.dry name : River α).addRain 0 n.outflowDays = .error reason := by
  simp [Overruns, Strands, River.addRain_eq_error_iff, and_assoc]

/-- When a record that a statement asks for is too long. -/
theorem error_declare_eq_rainTooLong_iff :
    (n.declare s).error = some (.rainTooLong reason) ↔ n.Overruns s reason := by
  have houtcome := n.outcome_declare s
  generalize (n.declare s).network = m, (n.declare s).error = error at houtcome
  cases houtcome with
  | undefined hs he =>
    obtain ⟨name, line, rfl⟩ := Expr.error_evaluate he
    refine iff_of_false (by rintro ⟨⟩) ?_
    -- An expression that goes wrong is not rain as it is written.
    rcases hs with ⟨r, hgives⟩ | hflow
    · intro hoverruns
      obtain ⟨amount, days, hrain, -⟩ := hgives.overruns_iff.mp hoverruns
      rw [Expr.result_eq_rain_iff.mpr hrain] at he
      cases he
    · simp [Overruns, Strands, hflow]
  | given hgives he hr =>
    -- Rain on too many days would not have been received.
    refine iff_of_false (by rintro ⟨⟩) fun hoverruns => ?_
    obtain ⟨amount, days, hrain, hlength⟩ := hgives.overruns_iff.mp hoverruns
    obtain rfl := Except.ok.inj (he.symm.trans (Expr.result_eq_rain_iff.mpr hrain))
    rw [River.receive_eq_error_iff.mpr ⟨amount, days, rfl, hlength⟩] at hr
    cases hr
  | overrun hgives he hr =>
    rw [hgives.overruns_iff]
    obtain ⟨amount, days, rfl, hlength⟩ := River.receive_eq_error_iff.mp hr
    have hrain := Expr.result_eq_rain_iff.mp he
    constructor
    · rintro ⟨⟩
      exact ⟨amount, days, hrain, hlength⟩
    · rintro ⟨amount', days', hrain', hlength'⟩
      rw [hrain] at hrain'
      cases hrain'
      rw [hlength] at hlength'
      cases hlength'
      rfl
  | undeclared hname => simp [Overruns, Strands, (Table.get?_eq_none_iff _ _).mp hname]
  | flow | capacity | outflow | outflowNotWhole | outflowTooShort => simp [Overruns, Strands]
  | dam _ hr => simp [overruns_dam_iff, hr]
  | stranded hrelease hr => simp [overruns_dam_iff, hrelease, hr]
  | releaseOutOfRange hrelease =>
    exact iff_of_false (by rintro ⟨⟩) fun hoverruns => hrelease (overruns_dam_iff.mp hoverruns).1

/-- When the days of outflow that a statement declares have no whole part. -/
theorem error_declare_eq_outflowNotWhole_iff {reason : Numeral.NoWholePart} :
    (n.declare s).error = some (.outflowNotWhole reason) ↔
      ∃ days, s.declares = .flowOut days ∧ Amount.truncate days = .error reason := by
  have houtcome := n.outcome_declare s
  generalize (n.declare s).network = m, (n.declare s).error = error at houtcome
  cases houtcome with
  | undefined hs he =>
    obtain ⟨name, line, rfl⟩ := Expr.error_evaluate he
    refine iff_of_false (by rintro ⟨⟩) ?_
    rcases hs with ⟨r, ⟨⟩⟩ | hflow
    · simp
    · simp
    · simp [hflow]
  | given hgives | overrun hgives => cases hgives <;> simp
  | outflow hdays | outflowNotWhole hdays | outflowTooShort hdays => simp [hdays]
  | _ => simp

end Network

end Catchment
