import Catchment.Run

/-!
# `Catchment.Proofs.Run.Stages`: a run, stage by stage

A run is put together from its end: what comes earlier is set in front of it. So what
it sends out is read off part by part. A part that only notices or tells adds no
diagnostic, and a failure adds its diagnostics and nothing else. Each stage ends the
run or hands on to the next, and one equation for each outcome says which.

* `diagnostics_preceded`, `notices_preceded`: what a run sends out with something before it.
* `stopped_of_failure?_eq_some`, `stopped_of_failure?_eq_none`, `events_stopped`: a run that a
  problem ends.
* `run_of_ok`, `runProgram_of_ok`, `runNetwork_of_ok`: a stage that hands on.
* `run_of_error`, `runProgram_of_error`, `runNetwork_of_error`, `runNetwork_of_share`: a stage
  that ends the run.
-/

set_option autoImplicit false

namespace Catchment

/-- What a failure sends out reports the failure. -/
@[simp] theorem Failure.filterMap_diagnostic?_dispatches (f : Failure) :
    f.dispatches.filterMap Dispatch.diagnostic? = f.diagnostics := by
  rw [dispatches, List.filterMap_map]
  exact List.filterMap_some

/-- What a failure sends out gives nothing to be noticed. -/
@[simp] theorem Failure.filterMap_notice?_dispatches (f : Failure) :
    f.dispatches.filterMap Dispatch.notice? = [] := by
  rw [dispatches, List.filterMap_map]
  exact List.filterMap_eq_nil_iff.mpr fun _ _ => rfl

namespace Run

variable (r : Run)

/-- What was reported before a run is reported first. -/
@[simp] theorem diagnostics_preceded (before : List Dispatch) :
    (r.preceded before).diagnostics = before.filterMap Dispatch.diagnostic? ++ r.diagnostics :=
  List.filterMap_append

/-- What was noticed before a run is noticed first. -/
@[simp] theorem notices_preceded (before : List Dispatch) :
    (r.preceded before).notices = before.filterMap Dispatch.notice? ++ r.notices :=
  List.filterMap_append

/-- What was sent out before a run adds no events. -/
@[simp] theorem events_preceded (before : List Dispatch) :
    (r.preceded before).events = r.events := rfl

/-- What was sent out before a run does not change its result. -/
@[simp] theorem result_preceded (before : List Dispatch) :
    (r.preceded before).result = r.result := rfl

/-- Giving something to be noticed reports nothing. -/
@[simp] theorem diagnostics_noticed (notices : List (Notice Float)) :
    (r.noticed notices).diagnostics = r.diagnostics := by
  rw [noticed, diagnostics_preceded, List.filterMap_map]
  exact congrArg (· ++ r.diagnostics) (List.filterMap_eq_nil_iff.mpr fun _ _ => rfl)

/-- Giving something to be noticed adds no events. -/
@[simp] theorem events_noticed (notices : List (Notice Float)) :
    (r.noticed notices).events = r.events := rfl

/-- Giving something to be noticed does not change the result. -/
@[simp] theorem result_noticed (notices : List (Notice Float)) :
    (r.noticed notices).result = r.result := rfl

/-- Telling events reports nothing. -/
@[simp] theorem diagnostics_told (events : List (Event Float)) :
    (r.told events).diagnostics = r.diagnostics := rfl

/-- The events that are told come first. -/
@[simp] theorem events_told (events : List (Event Float)) :
    (r.told events).events = events ++ r.events := rfl

/-- Telling events does not change the result. -/
@[simp] theorem result_told (events : List (Event Float)) :
    (r.told events).result = r.result := rfl

variable {p : Problem} {result : RunResult}

/-- A problem that is reported leaves a result, and its diagnostics. -/
theorem stopped_of_failure?_eq_some {f : Failure} (h : p.failure? = some f) :
    stopped p result = ⟨f.dispatches, [], .ok result⟩ := by
  rw [stopped, h]
  show (⟨f.dispatches ++ [], [], .ok result⟩ : Run) = _
  rw [List.append_nil]

/-- A problem that is not reported is all that is left. -/
theorem stopped_of_failure?_eq_none (h : p.failure? = none) :
    stopped p result = ⟨[], [], .error p⟩ := by
  rw [stopped, h]

/-- A problem is never told. -/
@[simp] theorem events_stopped (p : Problem) (result : RunResult) :
    (stopped p result).events = [] := by
  unfold stopped
  split <;> rfl

end Run

/-! ### The stages -/

/-- The run of a text without unread characters that is a program is the run of the program. -/
theorem run_of_ok (settings : Settings Float) {path text : String} {p : Program Float}
    (h : let scan : Scan Float := .ofText text
      Program.ofTokens path scan.tokens scan.endLine = .ok p) :
    let scan : Scan Float := .ofText text
    run settings path text =
      (runProgram settings ⟨none, none, none, !scan.faults.isEmpty, false⟩ p).preceded
        scan.failure.dispatches := by
  rw [run, h]

/-- The run of a text that is not read to a program stops with what is wrong with it, behind its
unread characters. -/
theorem run_of_error (settings : Settings Float) {path text : String} {e : ReadingError}
    (h : let scan : Scan Float := .ofText text
      Program.ofTokens path scan.tokens scan.endLine = .error e) :
    run settings path text =
      (Run.stopped e.problem ⟨none, none, none, true, false⟩).preceded
        (Scan.ofText text : Scan Float).failure.dispatches := by
  rw [run, h]

section
variable (settings : Settings Float) (result : RunResult)

/-- A program of which every statement is executed goes on to the run of the network that it
declares. -/
theorem runProgram_of_ok {p : Program Float}
    (h : (Network.empty.execute p.statements).error = none) :
    runProgram settings result p =
      (runNetwork settings { result with program := some p }
        (Network.empty.execute p.statements).network).noticed
        (.parsed p.statements.length :: (Network.empty.execute p.statements).notices) := by
  rw [runProgram, h]

/-- A program with a statement that goes wrong stops there. -/
theorem runProgram_of_error {p : Program Float} {e : EvaluationError Float}
    (h : (Network.empty.execute p.statements).error = some e) :
    runProgram settings result p =
      (Run.stopped (.statement e) { result with program := some p, runtimeError := true }).noticed
        (.parsed p.statements.length :: (Network.empty.execute p.statements).notices) := by
  rw [runProgram, h]

/-- A network without a daily share stops before its first day. -/
theorem runNetwork_of_share {n : Network Float} {p : Problem}
    (h : simulate settings n = .error p) :
    runNetwork settings result n =
      .stopped p { result with network := some n, runtimeError := true } := by
  rw [runNetwork, h]

/-- A simulation that comes to its end ends the run with a report. -/
theorem runNetwork_of_ok {n : Network Float} {progress : Progress Float}
    {report : Option (RunReport Float)} (h : simulate settings n = .ok (progress, report))
    (herror : progress.error = none) :
    runNetwork settings result n =
      ((Run.ended { result with network := some progress.network, report := report }).told
        progress.events).noticed progress.notices := by
  rw [runNetwork, h]
  simp only [herror]

/-- A simulation that goes wrong stops the run, behind the events it has told so far. -/
theorem runNetwork_of_error {n : Network Float} {progress : Progress Float}
    {report : Option (RunReport Float)} {e : SimulationError}
    (h : simulate settings n = .ok (progress, report)) (herror : progress.error = some e) :
    runNetwork settings result n =
      ((Run.stopped (.simulation e) { result with
        network := some progress.network, report := report, runtimeError := true }).told
        progress.events).noticed progress.notices := by
  rw [runNetwork, h]
  simp only [herror]

end

end Catchment
