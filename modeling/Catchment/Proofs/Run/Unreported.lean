import Catchment.Proofs.Network.Overrun
import Catchment.Proofs.Program.Days
import Catchment.Proofs.Run.PassedOn

/-!
# `Catchment.Proofs.Run.Unreported`: which texts have a run without a result

A run without a result passes a problem on. There are three ways to that, and no other.
The tokens of a text may ask for rain over infinitely many days. The statement that the
run has come to may declare outflow on infinitely many days. And that statement may ask
for a record of rain that is too long, although all its numbers are finite.

* `Scan.Reaches`: the run of a text comes to a statement.
* `run_passes_on_iff`: the texts of which the run passes a problem on, and that problem.
-/

set_option autoImplicit false

namespace Catchment

/-- The tokens of a text spell a program, and all goes well with it up to a statement and the
network that there is by then. -/
def Scan.Reaches (scan : Scan Float) (path : String) (n : Network Float) (s : Statement Float) :
    Prop :=
  ∃ program done rest, Program.ofTokens path scan.tokens scan.endLine = .ok program ∧
    program.statements = done ++ s :: rest ∧ (Network.empty.execute done).error = none ∧
    (Network.empty.execute done).network = n

/-- No number of a text is undefined. -/
theorem Scan.all_defined (text : String) :
    ∀ t ∈ (ofText text : Scan Float).tokens, t.All (Amount.numeral · ≠ .undefined) :=
  all_ofText Amount.numeral_ofDecimal_ne_undefined text

/-- What holds of all numbers of a text holds of those of a statement that its run comes to. -/
theorem Scan.Reaches.all {P : Float → Prop} {scan : Scan Float} {path : String}
    {n : Network Float} {s : Statement Float} (h : scan.Reaches path n s)
    (hdefault : P defaultRelease)
    (hall : ∀ t ∈ scan.tokens, t.All P) : s.declares.All P := by
  obtain ⟨program, done, rest, hread, hstatements, -⟩ := h
  refine Program.all_ofTokens hdefault hall hread s ?_
  rw [hstatements]
  exact List.mem_append_right _ List.mem_cons_self

/-- Something goes wrong in the statements of a text exactly where it does in one that its run
comes to. -/
theorem Scan.exists_reaches_iff {scan : Scan Float} {path : String} {e : EvaluationError Float} :
    (∃ program, Program.ofTokens path scan.tokens scan.endLine = .ok program ∧
      (Network.empty.execute program.statements).error = some e) ↔
      ∃ n s, scan.Reaches path n s ∧ (n.declare s).error = some e := by
  constructor
  · rintro ⟨program, hread, herror⟩
    obtain ⟨done, s, rest, hstatements, hdone, herror⟩ :=
      Network.error_execute_eq_some_iff.mp herror
    exact ⟨_, s, ⟨program, done, rest, hread, hstatements, hdone, rfl⟩, herror⟩
  · rintro ⟨n, s, ⟨program, done, rest, hread, hstatements, hdone, rfl⟩, herror⟩
    exact ⟨program, hread, Network.error_execute_eq_some_iff.mpr
      ⟨done, s, rest, hstatements, hdone, herror⟩⟩

/-- What goes wrong in a statement and is not reported. -/
theorem EvaluationError.eq_of_failure?_eq_none {e : EvaluationError Float}
    (h : e.failure? = none) :
    (∃ reason, e = .outflowNotWhole reason) ∨ ∃ reason, e = .rainTooLong reason := by
  cases e with
  | outflowNotWhole reason => exact Or.inl ⟨reason, rfl⟩
  | rainTooLong reason => exact Or.inr ⟨reason, rfl⟩
  | undefined | undeclaredRiver | outflowTooShort | releaseOutOfRange => cases h

/-- A run passes on a problem if and only if the tokens of the text ask for rain over infinitely
many days before they break the grammar, or they spell a program, and the first statement in which
something goes wrong declares outflow on infinitely many days or asks for a record that is too
long. -/
theorem run_passes_on_iff (settings : Settings Float) (path text : String) (p : Problem) :
    let scan : Scan Float := .ofText text
    (run settings path text).result = .error p ↔
      Program.RainsOver Amount.IsInfinite scan.tokens ∧ p = .days .infinite ∨
      ∃ n s, scan.Reaches path n s ∧
        ((∃ days, s.declares = .flowOut days ∧ Amount.IsInfinite days) ∧
            p = .statement (.outflowNotWhole .infinite) ∨
          ∃ reason, n.Overruns s reason ∧ p = .statement (.rainTooLong reason)) := by
  intro scan
  have hdefined : ∀ t ∈ scan.tokens, t.All (Amount.numeral · ≠ .undefined) :=
    Scan.all_defined text
  -- A statement that is come to has no undefined number of days either.
  have hoverflow : ∀ {n s days reason}, scan.Reaches path n s → s.declares = .flowOut days →
      (Amount.truncate days = .error reason ↔ reason = .infinite ∧ Amount.IsInfinite days) := by
    intro n s days reason hreaches hdeclares
    have hall := hreaches.all (by decide +kernel) hdefined
    rw [hdeclares] at hall
    exact Amount.truncate_eq_error_iff hall
  refine (run_eq_error_iff settings path text p).trans (or_congr ?_ ?_)
  · -- What ends the reading.
    simp only [scan, Program.ofTokens_eq_error_days_iff (Scan.all_defined text)]
    constructor
    · rintro ⟨reason, ⟨rfl, hrains⟩, rfl⟩
      exact ⟨hrains, rfl⟩
    · rintro ⟨hrains, rfl⟩
      exact ⟨.infinite, ⟨rfl, hrains⟩, rfl⟩
  · -- What ends the statements.
    constructor
    · rintro ⟨program, e, hread, herror, hnone, rfl⟩
      obtain ⟨n, s, hreaches, hdeclare⟩ := Scan.exists_reaches_iff.mp ⟨program, hread, herror⟩
      refine ⟨n, s, hreaches, ?_⟩
      rcases EvaluationError.eq_of_failure?_eq_none hnone with ⟨reason, rfl⟩ | ⟨reason, rfl⟩
      · obtain ⟨days, hdeclares, htruncate⟩ :=
          Network.error_declare_eq_outflowNotWhole_iff.mp hdeclare
        obtain ⟨rfl, hinfinite⟩ := (hoverflow hreaches hdeclares).mp htruncate
        exact Or.inl ⟨⟨days, hdeclares, hinfinite⟩, rfl⟩
      · exact Or.inr ⟨reason, Network.error_declare_eq_rainTooLong_iff.mp hdeclare, rfl⟩
    · rintro ⟨n, s, hreaches, ⟨⟨days, hdeclares, hinfinite⟩, rfl⟩ | ⟨reason, hoverruns, rfl⟩⟩
      · have htruncate := (hoverflow hreaches hdeclares).mpr ⟨rfl, hinfinite⟩
        obtain ⟨program, hread, herror⟩ := Scan.exists_reaches_iff.mpr ⟨n, s, hreaches,
          Network.error_declare_eq_outflowNotWhole_iff.mpr ⟨days, hdeclares, htruncate⟩⟩
        exact ⟨program, _, hread, herror, rfl, rfl⟩
      · obtain ⟨program, hread, herror⟩ := Scan.exists_reaches_iff.mpr ⟨n, s, hreaches,
          Network.error_declare_eq_rainTooLong_iff.mpr hoverruns⟩
        exact ⟨program, _, hread, herror, rfl, rfl⟩

/-- A run can be without a result although no number of days is infinite: a record cannot have so
many days. -/
theorem run_without_result_of_finite_days :
    ¬∀ (settings : Settings Float) (path text : String),
      let scan : Scan Float := .ofText text
      (∃ p, (run settings path text).result = .error p) ↔
        Program.RainsOver Amount.IsInfinite scan.tokens ∨
        ∃ n s days, scan.Reaches path n s ∧ s.declares = .flowOut days ∧
          Amount.IsInfinite days := by
  intro h
  let text := "River a = 5(100000000000000000000)mm; River a = 1mm; Capacity a = 10ML;"
  let scan : Scan Float := .ofText text
  -- Twenty digits make a number that is finite, and more days than a record can have.
  have hfinite : ∀ t ∈ scan.tokens, t.All (¬Amount.IsInfinite ·) := by decide +kernel
  have hpassed : (run .default "" text).result.toOption.isNone = true := by decide +kernel
  have herror : ∃ p, (run .default "" text).result = .error p := by
    cases hresult : (run .default "" text).result with
    | error p => exact ⟨p, rfl⟩
    | ok result =>
      rw [hresult] at hpassed
      cases hpassed
  rcases (h .default "" text).mp herror with hrains | ⟨n, s, days, hreaches, hdeclares, hinfinite⟩
  · obtain ⟨t, ht, v, hv, hinfinite⟩ := hrains.exists_count
    exact hfinite t ht v hv hinfinite
  · have hall := hreaches.all (by decide +kernel) hfinite
    rw [hdeclares] at hall
    exact hall hinfinite

end Catchment
