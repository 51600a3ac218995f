import Catchment.Proofs.Amount.Binary
import Catchment.Proofs.Network.Stopped
import Catchment.Proofs.Program.Grammar
import Catchment.Proofs.Run.Stages
import Catchment.Proofs.Simulation.Recorded

/-!
# `Catchment.Proofs.Run.PassedOn`: what a run passes on

Most problems are reported, and the run has a result. What is left is passed on. The
days of outflow that a program declares always have a daily share, and every dam has
its record, so nothing is passed on once the simulation has begun. What is passed on
comes from the reading or from a statement. Where no number of a text is infinite, it
is one problem only: rain on more days than a record can have.

* `exists_simulate_eq_ok`, `simulate_cases`: the network of a program can be simulated, and what
  comes of it.
* `exists_result_runNetwork`: the last part of a run has a result.
* `runProgram_eq_error_iff`, `run_eq_error_iff`: what a run passes on.
* `Scan.all_isFinite`: numbers that are not infinite are finite.
* `run_eq_error_iff_of_finite`: what a run passes on where no number is infinite.
-/

set_option autoImplicit false

namespace Catchment

/-- Days of outflow that are declared, or the shortest, have a daily share. -/
theorem exists_dailyShare_eq_ok (statements : List (Statement Float)) :
    ∃ share, dailyShare (Network.empty.execute statements : Execution Float).network.outflowDays
      = .ok share := by
  have hdays := Network.outflowDays_execute (n := Network.empty)
    (P := fun days => shortestOutflow ≤ days ∧ days < Binary.uncountable)
    ⟨le_refl _, by decide +kernel⟩ (fun {days whole} htruncate hlong => by
      have hlt : whole.natAbs < Binary.uncountable := Amount.natAbs_lt_of_truncate htruncate
      omega) statements
  obtain ⟨hlong, hcountable⟩ := hdays
  have hne : ¬((Network.empty.execute statements : Execution Float).network.outflowDays : Int)
      = 0 := by
    have hthree : shortestOutflow = 3 := rfl
    omega
  unfold dailyShare
  rw [if_neg hne, Int.natAbs_natCast, if_neg (Nat.not_le.mpr hcountable)]
  exact ⟨_, rfl⟩

/-- So the network that statements leave can be simulated. -/
theorem exists_simulate_eq_ok (settings : Settings Float) (statements : List (Statement Float)) :
    let n := (Network.empty.execute statements : Execution Float).network
    ∃ share, simulate settings n = .ok ((Simulation.start settings share n).run n) := by
  obtain ⟨share, hshare⟩ := exists_dailyShare_eq_ok statements
  refine ⟨share, ?_⟩
  rw [simulate, hshare]

/-- The simulation of such a network comes to its report, or it ends at the missing capacities
before anything happens. -/
theorem simulate_cases (settings : Settings Float) (statements : List (Statement Float)) :
    let n := (Network.empty.execute statements : Execution Float).network
    (n.obstacle? = none ∧ ∃ (progress : Progress Float) (report : RunReport Float),
        simulate settings n = .ok (progress, some report) ∧ progress.error = none) ∨
      (n.obstacle? = some (.withoutCapacity n.withoutCapacity) ∧ ∃ simulation,
        simulate settings n = .ok (⟨n, simulation, [], n.obstacleNotices,
          some (.withoutCapacity n.withoutCapacity)⟩, none)) := by
  intro n
  obtain ⟨share, hsimulate⟩ := exists_simulate_eq_ok settings statements
  cases hobstacle : n.obstacle? with
  | none =>
    obtain ⟨herror, hreport⟩ := Simulation.run_of_no_obstacle settings share hobstacle
    obtain ⟨report, hreport⟩ := Option.isSome_iff_exists.mp hreport
    refine Or.inl ⟨rfl, _, report, hsimulate.trans ?_, herror⟩
    rw [← hreport]
  | some e =>
    obtain rfl := Network.eq_withoutCapacity_of_obstacle? hobstacle
    rw [Simulation.run_of_obstacle settings share hobstacle] at hsimulate
    exact Or.inr ⟨rfl, _, hsimulate⟩

/-- The last part of a run has a result. -/
theorem exists_result_runNetwork (settings : Settings Float) (result : RunResult)
    (statements : List (Statement Float)) :
    ∃ reached, (runNetwork settings result
      (Network.empty.execute statements : Execution Float).network).result = .ok reached := by
  rcases simulate_cases settings statements with
    ⟨-, progress, report, hsimulate, herror⟩ | ⟨-, simulation, hsimulate⟩
  · rw [runNetwork_of_ok settings result hsimulate herror]
    exact ⟨_, rfl⟩
  · rw [runNetwork_of_error settings result hsimulate rfl]
    exact ⟨_, rfl⟩

/-- The run of a program passes on what goes wrong in its statements and is not reported, and
nothing else. -/
theorem runProgram_eq_error_iff (settings : Settings Float) (result : RunResult)
    (program : Program Float) (p : Problem) :
    (runProgram settings result program).result = .error p ↔
      ∃ e, (Network.empty.execute program.statements).error = some e ∧ e.failure? = none ∧
        p = .statement e := by
  -- Where all statements are executed there is a result, whatever goes wrong behind them.
  cases hexecute : (Network.empty.execute program.statements).error with
  | none =>
    obtain ⟨reached, hreached⟩ := exists_result_runNetwork settings
      { result with program := some program } program.statements
    rw [runProgram_of_ok _ _ hexecute, Run.result_noticed, hreached]
    exact iff_of_false nofun nofun
  | some e =>
    rw [runProgram_of_error _ _ hexecute, Run.result_noticed]
    cases hreported : e.failure? with
    | some f =>
      have hstatement : (Problem.statement e).failure? = some f := hreported
      rw [Run.stopped_of_failure?_eq_some hstatement]
      refine iff_of_false nofun ?_
      rintro ⟨e', herror, hnone, -⟩
      cases herror
      rw [hreported] at hnone
      cases hnone
    | none =>
      have hstatement : (Problem.statement e).failure? = none := hreported
      rw [Run.stopped_of_failure?_eq_none hstatement]
      constructor
      · intro h
        cases h
        exact ⟨e, rfl, hreported, rfl⟩
      · rintro ⟨e', herror, -, rfl⟩
        cases herror
        rfl

/-- A run passes on a problem if and only if the reading ends at a number of days without a whole
part, or something goes wrong in the statements that is not reported. -/
theorem run_eq_error_iff (settings : Settings Float) (path text : String) (p : Problem) :
    let scan : Scan Float := .ofText text
    (run settings path text).result = .error p ↔
      (∃ reason, Program.ofTokens path scan.tokens scan.endLine = .error (.days reason) ∧
        p = .days reason) ∨
      ∃ program e, Program.ofTokens path scan.tokens scan.endLine = .ok program ∧
        (Network.empty.execute program.statements).error = some e ∧ e.failure? = none ∧
        p = .statement e := by
  intro scan
  cases hread : Program.ofTokens path scan.tokens scan.endLine with
  | ok program =>
    rw [run_of_ok settings hread, Run.result_preceded, runProgram_eq_error_iff]
    constructor
    · rintro ⟨e, herror, hnone, rfl⟩
      exact Or.inr ⟨program, e, rfl, herror, hnone, rfl⟩
    · rintro (⟨reason, hdays, -⟩ | ⟨program', e, hok, herror⟩)
      · cases hdays
      · cases hok
        exact ⟨e, herror⟩
  | error e =>
    rw [run_of_error settings hread]
    cases e with
    | grammar error =>
      -- A broken grammar is reported.
      exact iff_of_false nofun (by rintro (⟨_, ⟨⟩, -⟩ | ⟨_, _, ⟨⟩, -⟩))
    | days reason =>
      constructor
      · intro h
        cases h
        exact Or.inl ⟨reason, rfl, rfl⟩
      · rintro (⟨reason', hdays, rfl⟩ | ⟨_, _, hok, -⟩)
        · cases hdays
          rfl
        · cases hok

/-- Numbers of a text that are not infinite are finite. -/
theorem Scan.all_isFinite {text : String}
    (h : ∀ t ∈ (ofText text : Scan Float).tokens, t.All (¬Amount.IsInfinite ·)) :
    ∀ t ∈ (ofText text : Scan Float).tokens, t.All Amount.IsFinite := by
  intro t ht v hv
  have hdefined : Amount.numeral v ≠ .undefined :=
    all_ofText (P := fun v : Float => Amount.numeral v ≠ .undefined)
      Amount.numeral_ofDecimal_ne_undefined text t ht v hv
  exact Numeral.isFinite_of_not_isInfinite (h t ht v hv) hdefined

/-- Where no number of a text is infinite, its run passes on a problem if and only if its tokens
spell a program of which a statement asks for rain on more days than a record can have. -/
theorem run_eq_error_iff_of_finite (settings : Settings Float) (path : String) {text : String}
    (hfinite : ∀ t ∈ (Scan.ofText text : Scan Float).tokens, t.All (¬Amount.IsInfinite ·))
    (p : Problem) :
    let scan : Scan Float := .ofText text
    (run settings path text).result = .error p ↔
      ∃ program reason, Program.ofTokens path scan.tokens scan.endLine = .ok program ∧
        (Network.empty.execute program.statements).error = some (.rainTooLong reason) ∧
        p = .statement (.rainTooLong reason) := by
  intro scan
  have htokens : ∀ t ∈ scan.tokens, t.All Amount.IsFinite := Scan.all_isFinite hfinite
  refine (run_eq_error_iff settings path text p).trans ⟨?_, ?_⟩
  -- Finite numbers of days have a whole part, so of what is passed on only the rain is left.
  · rintro (⟨reason, hread, -⟩ | ⟨program, e, hread, herror, hnone, rfl⟩)
    · obtain ⟨error, hgrammar⟩ := Program.error_ofTokens_of_finite htokens hread
      cases hgrammar
    · have hall := Program.all_ofTokens (by decide +kernel) htokens hread
      rcases Network.error_execute_of_finite hall herror with hreported | hrain
      · rw [hnone] at hreported
        cases hreported
      · cases e with
        | rainTooLong reason => exact ⟨program, reason, hread, herror, rfl⟩
        | undefined | undeclaredRiver | outflowTooShort | releaseOutOfRange | outflowNotWhole =>
          exact hrain.elim
  · rintro ⟨program, reason, hread, herror, rfl⟩
    exact Or.inr ⟨program, _, hread, herror, rfl, rfl⟩

end Catchment
