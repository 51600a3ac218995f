import Catchment.Proofs.Run.Cleared
import Catchment.Proofs.Run.PassedOn

/-!
# `Catchment.Proofs.Run.Agreement`: a run and its steps

A text can be run as a whole, or step by step: it is read, the program is executed, and
the network is simulated, and the first step that goes wrong is the last. The two agree.
If all steps succeed, so does the run, with what the steps lead to. If a step goes wrong
and its problem is reported, the run reports it, and has what the steps before it lead
to. Characters that are not read are the one exception, because a run goes on behind
them: it may meet further problems, and rain on too many days ends it without a result.

* `Steps`: how far the steps lead.
* `Steps.Seen`: a run shows what the steps lead to.
* `Steps.seen_run`: the run of a text of which every character is read.
* `Steps.finished_ofText`: what the steps lead to with and without a problem.
* `run_of_unread`: the run of any other text.
* `run_agrees_with_its_steps`: the run of any text without infinite numbers.
* `run_without_result_behind_a_stray`: the exception.
-/

set_option autoImplicit false

namespace Catchment

/-- How far the steps of a run lead: what each of them yields, what is told, and the problem that
ends them, if there is one. -/
structure Steps where
  program : Option (Program Float)
  network : Option (Network Float)
  report : Option (RunReport Float)
  events : List (Event Float)
  problem : Option Problem

namespace Steps

variable (settings : Settings Float)

/-- The last step: the simulation of the network that a program declares. -/
def ofNetwork (program : Program Float) (n : Network Float) : Steps :=
  match simulate settings n with
  | .error p => ⟨some program, some n, none, [], some p⟩
  | .ok (progress, report) =>
    ⟨some program, some progress.network, report, progress.events, progress.error.map .simulation⟩

/-- The last two steps: the execution of a program, and the simulation. -/
def ofProgram (program : Program Float) : Steps :=
  match program.network with
  | .error p => ⟨some program, none, none, [], some p⟩
  | .ok n => ofNetwork settings program n

/-- All three steps, the first being to read a text. -/
def ofText (path text : String) : Steps :=
  match Program.read path text with
  | .error p => ⟨none, none, none, [], some p⟩
  | .ok program => ofProgram settings program

/-- A run shows what some steps lead to. If they come to their end, it has all of it and reports
nothing. If they end in a problem that is reported, it reports that problem and has what they led
to. Any other problem it passes on. -/
structure Seen (s : Steps) (r : Run) : Prop where
  events : r.events = s.events
  ended : s.problem = none →
    r.diagnostics = [] ∧ r.result = .ok ⟨s.program, s.network, s.report, false, false⟩
  reported : ∀ {p f}, s.problem = some p → p.failure? = some f →
    r.diagnostics = f.diagnostics ∧ ∃ result, r.result = .ok result ∧ result.ok = false ∧
      result.program = s.program ∧ result.network = s.network ∧ result.report = s.report
  passed : ∀ {p}, s.problem = some p → p.failure? = none → r.result = .error p

/-- A run that a problem ends shows the steps that it ends. -/
theorem seen_stopped {s : Steps} {p : Problem} {result : RunResult} (hp : s.problem = some p)
    (hok : result.ok = false) (hprogram : result.program = s.program)
    (hnetwork : result.network = s.network) (hreport : result.report = s.report) :
    s.Seen ((Run.stopped p result).told s.events) := by
  -- There is one problem only, so each clause is about this one or about none.
  have hsame : ∀ {q}, s.problem = some q → q = p := by
    intro q hq
    rw [hp] at hq
    exact (Option.some.inj hq).symm
  constructor
  case events =>
    rw [Run.events_told, Run.events_stopped, List.append_nil]
  case ended =>
    intro hnone
    rw [hp] at hnone
    cases hnone
  case reported =>
    intro q f hq hf
    rw [hsame hq] at hf
    rw [Run.diagnostics_told, Run.result_told, Run.stopped_of_failure?_eq_some hf]
    exact ⟨f.filterMap_diagnostic?_dispatches, result, rfl, hok, hprogram, hnetwork, hreport⟩
  case passed =>
    intro q hq hf
    rw [hsame hq] at hf ⊢
    rw [Run.result_told, Run.stopped_of_failure?_eq_none hf]

/-- What is seen of a run does not depend on what it gives to be noticed. -/
theorem Seen.noticed {s : Steps} {r : Run} (h : s.Seen r) (notices : List (Notice Float)) :
    s.Seen (r.noticed notices) := by
  constructor
  case events =>
    rw [Run.events_noticed]
    exact h.events
  case ended =>
    rw [Run.diagnostics_noticed, Run.result_noticed]
    exact h.ended
  case reported =>
    rw [Run.diagnostics_noticed, Run.result_noticed]
    exact h.reported
  case passed =>
    rw [Run.result_noticed]
    exact h.passed

/-- Only where the steps come to their end, what is seen of them is good. -/
theorem Seen.problem_eq_none {s : Steps} {r : Run} (h : s.Seen r) {result : RunResult}
    (hresult : r.result = .ok result) (hok : result.ok = true) : s.problem = none := by
  cases hp : s.problem with
  | none => rfl
  | some p =>
    cases hf : p.failure? with
    | none =>
      rw [h.passed hp hf] at hresult
      cases hresult
    | some f =>
      obtain ⟨-, result', hresult', hbad, -⟩ := h.reported hp hf
      rw [hresult'] at hresult
      cases hresult
      rw [hbad] at hok
      cases hok

/-- The run of a network is seen to take the steps from the daily share on. -/
theorem seen_runNetwork (program : Program Float) (n : Network Float) :
    (ofNetwork settings program n).Seen
      (runNetwork settings ⟨some program, none, none, false, false⟩ n) := by
  unfold ofNetwork
  cases h : simulate settings n with
  | error p =>
    rw [runNetwork_of_share _ _ h]
    exact seen_stopped (s := ⟨some program, some n, none, [], some p⟩) rfl rfl rfl rfl rfl
  | ok outcome =>
    obtain ⟨progress, report⟩ := outcome
    cases herror : progress.error with
    | none =>
      rw [runNetwork_of_ok _ _ h herror]
      refine Seen.noticed ⟨List.append_nil _, fun _ => ⟨rfl, rfl⟩, ?_, ?_⟩ progress.notices
      · intro p f hp _
        simp [herror] at hp
      · intro p hp _
        simp [herror] at hp
    | some e =>
      rw [runNetwork_of_error _ _ h herror]
      simp only [herror, Option.map_some]
      refine Seen.noticed ?_ progress.notices
      exact seen_stopped (s := ⟨_, _, report, progress.events, some (.simulation e)⟩)
        rfl rfl rfl rfl rfl

/-- The run of a program is seen to take the steps from its first statement on. -/
theorem seen_runProgram (program : Program Float) :
    (ofProgram settings program).Seen
      (runProgram settings ⟨none, none, none, false, false⟩ program) := by
  unfold ofProgram Program.network
  cases h : (Network.empty.execute program.statements).error with
  | none =>
    rw [runProgram_of_ok _ _ h]
    simp only [h]
    exact Seen.noticed (seen_runNetwork settings program _) _
  | some e =>
    rw [runProgram_of_error _ _ h]
    simp only [h]
    refine Seen.noticed ?_ _
    exact seen_stopped
      (s := ⟨some program, none, none, [], some (.statement e)⟩) rfl rfl rfl rfl rfl

/-- The steps of a text of which every character is read go on with its tokens. -/
theorem ofText_of_read (path : String) {text : String}
    (h : (Scan.ofText text : Scan Float).faults = []) :
    ofText settings path text =
      match Program.ofTokens path (Scan.ofText text : Scan Float).tokens
        (Scan.ofText text : Scan Float).endLine with
      | .error e => ⟨none, none, none, [], some e.problem⟩
      | .ok program => ofProgram settings program := by
  rw [ofText, Program.read_of_faults_eq_nil path h]
  cases Program.ofTokens path (Scan.ofText text : Scan Float).tokens
    (Scan.ofText text : Scan Float).endLine <;> rfl

/-- The first character that is not read ends the steps of a text. -/
theorem ofText_of_unread (path : String) {text : String}
    (h : (Scan.ofText text : Scan Float).faults ≠ []) :
    ofText settings path text = ⟨none, none, none, [], some (.characters (.ofText text))⟩ := by
  rw [ofText, Program.read_of_faults_ne_nil path h]

/-- The run of a text shows what its steps lead to, if every character is read. -/
theorem seen_run (path : String) {text : String}
    (h : (Scan.ofText text : Scan Float).faults = []) :
    (ofText settings path text).Seen (run settings path text) := by
  have hfailure : (Scan.ofText text : Scan Float).failure.dispatches = [] := by
    rw [Scan.failure, h]
    rfl
  have hmark : (!(Scan.ofText text : Scan Float).faults.isEmpty) = false := by
    rw [h]
    rfl
  rw [ofText_of_read settings path h]
  cases hread : Program.ofTokens path (Scan.ofText text : Scan Float).tokens
      (Scan.ofText text : Scan Float).endLine with
  | ok program =>
    rw [run_of_ok settings hread, hfailure, hmark]
    exact seen_runProgram settings program
  | error e =>
    rw [run_of_error settings hread, hfailure]
    exact seen_stopped (s := ⟨none, none, none, [], some e.problem⟩) rfl rfl rfl rfl rfl

/-- Steps without a problem have led to everything, and steps that a problem ends have not led to
a report. -/
structure Finished (s : Steps) : Prop where
  complete : s.problem = none → s.program.isSome ∧ s.network.isSome ∧ s.report.isSome
  incomplete : s.problem.isSome → s.report = none

/-- The steps from the first statement of a program on come to an end. -/
theorem finished_ofProgram (program : Program Float) : (ofProgram settings program).Finished := by
  unfold ofProgram Program.network
  -- The network is simulated only if all statements are executed, and it always can be.
  cases h : (Network.empty.execute program.statements).error with
  | some e =>
    simp only [h]
    exact ⟨fun hnone => (Option.some_ne_none _ hnone).elim, fun _ => rfl⟩
  | none =>
    simp only [h]
    unfold ofNetwork
    rcases simulate_cases settings program.statements with
      ⟨-, progress, report, hsimulate, herror⟩ | ⟨-, simulation, hsimulate⟩
    · simp only [hsimulate, herror]
      exact ⟨fun _ => ⟨rfl, rfl, rfl⟩, fun hsome => (Bool.false_ne_true hsome).elim⟩
    · simp only [hsimulate]
      exact ⟨fun hnone => (Option.some_ne_none _ hnone).elim, fun _ => rfl⟩

/-- The steps from the tokens of a text on come to an end. -/
theorem finished_ofText (path text : String) : (ofText settings path text).Finished := by
  unfold ofText
  cases Program.read path text with
  | ok program => exact finished_ofProgram settings program
  | error p => exact ⟨fun hnone => (Option.some_ne_none _ hnone).elim, fun _ => rfl⟩

end Steps

/-- Where a character is not read, the result of a run is not good, and the characters are
reported first. -/
theorem run_of_unread (settings : Settings Float) (path : String) {text : String}
    (h : (Scan.ofText text : Scan Float).faults ≠ []) :
    let r := run settings path text
    (Scan.ofText text : Scan Float).failure.diagnostics <+: r.diagnostics ∧
      ∀ result, r.result = .ok result → result.ok = false := by
  intro r
  have hmark : (!(Scan.ofText text : Scan Float).faults.isEmpty) = true := by
    rw [Bool.not_eq_true', List.isEmpty_eq_false_iff]
    exact h
  -- The run is that of the cleared text, with the mark that makes its result not good.
  have heq : r = ((run settings path (Scan.cleared text)).marked true).preceded
      (Scan.ofText text : Scan Float).failure.dispatches :=
    hmark ▸ run_eq_cleared settings path text
  constructor
  · rw [heq, Run.diagnostics_preceded, Failure.filterMap_diagnostic?_dispatches]
    exact List.prefix_append _ _
  · intro result hresult
    rw [heq, Run.result_preceded, Run.marked] at hresult
    cases hblank : (run settings path (Scan.cleared text)).result with
    | error p =>
      rw [hblank] at hresult
      cases hresult
    | ok reached =>
      rw [hblank] at hresult
      cases hresult
      show (!(reached.syntaxError || true || reached.runtimeError)) = false
      rw [Bool.or_true, Bool.true_or, Bool.not_true]

/-- The run of a text agrees with its steps, if none of its numbers is infinite. If the steps come
to their end, the run has all that they lead to, tells the same, and reports nothing. If they end
in a problem that is reported, the run reports it first and is not good; if every character is
read, it reports nothing else and has what the steps led to before the problem. A problem that is
not reported the run passes on. Behind a reported problem a run passes something on if and only if
characters are not read and the tokens around them ask for rain on more days than a record can
have. Only where the steps come to their end is a run good. -/
theorem run_agrees_with_its_steps (settings : Settings Float) (path : String) {text : String}
    (hfinite : ∀ t ∈ (Scan.ofText text : Scan Float).tokens, t.All (¬Amount.IsInfinite ·)) :
    let scan : Scan Float := .ofText text
    let s := Steps.ofText settings path text
    let r := run settings path text
    (s.problem = none →
      r.result = .ok ⟨s.program, s.network, s.report, false, false⟩ ∧
        s.program.isSome ∧ s.network.isSome ∧ s.report.isSome ∧
        r.events = s.events ∧ r.diagnostics = []) ∧
      (∀ p f, s.problem = some p → p.failure? = some f →
        f.diagnostics <+: r.diagnostics ∧
          (∀ result, r.result = .ok result → result.ok = false) ∧
          (∀ q, r.result = .error q ↔ scan.faults ≠ [] ∧
            ∃ program reason, Program.ofTokens path scan.tokens scan.endLine = .ok program ∧
              (Network.empty.execute program.statements).error = some (.rainTooLong reason) ∧
              q = .statement (.rainTooLong reason)) ∧
          ((∀ unread, p ≠ .characters unread) →
            r.diagnostics = f.diagnostics ∧ ∃ result, r.result = .ok result ∧
              result.program = s.program ∧ result.network = s.network ∧
              result.report = s.report ∧ s.report = none)) ∧
      (∀ p, s.problem = some p → p.failure? = none → r.result = .error p) ∧
      ∀ result, r.result = .ok result → result.ok = true → s.problem = none := by
  intro scan s r
  have hfinished : s.Finished := Steps.finished_ofText settings path text
  by_cases hfaults : scan.faults = []
  · -- Every character is read, so the run shows the steps.
    have hseen : s.Seen r := Steps.seen_run settings path hfaults
    refine ⟨fun hnone => ?_, fun p f hp hf => ?_, fun p hp hf => hseen.passed hp hf,
      fun result hresult hok => hseen.problem_eq_none hresult hok⟩
    · obtain ⟨hdiagnostics, hresult⟩ := hseen.ended hnone
      obtain ⟨hprogram, hnetwork, hreport⟩ := hfinished.complete hnone
      exact ⟨hresult, hprogram, hnetwork, hreport, hseen.events, hdiagnostics⟩
    · obtain ⟨hdiagnostics, result, hresult, hok, hprogram, hnetwork, hreport⟩ :=
        hseen.reported hp hf
      have hnone : s.report = none := hfinished.incomplete (by rw [hp]; rfl)
      refine ⟨hdiagnostics ▸ List.prefix_refl _, ?_, ?_, ?_⟩
      · intro result' hresult'
        rw [hresult] at hresult'
        cases hresult'
        exact hok
      · intro q
        rw [hresult]
        constructor
        · intro h
          cases h
        · rintro ⟨hunread, -⟩
          exact (hunread hfaults).elim
      · intro _
        exact ⟨hdiagnostics, result, hresult, hprogram, hnetwork, hreport, hnone⟩
  · -- The steps end at a character that is not read, but the run goes on behind it.
    obtain ⟨hfirst, hbad⟩ := run_of_unread settings path hfaults
    have hproblem : s.problem = some (.characters scan) := by
      show (Steps.ofText settings path text).problem = _
      rw [Steps.ofText_of_unread settings path hfaults]
    refine ⟨fun hnone => ?_, fun p f hp hf => ?_, fun p hp hf => ?_, fun result hresult hok => ?_⟩
    · rw [hproblem] at hnone
      cases hnone
    · rw [hproblem] at hp
      cases hp
      cases hf
      refine ⟨hfirst, hbad, fun q => ?_, fun hread => (hread scan rfl).elim⟩
      have hiff := run_eq_error_iff_of_finite settings path hfinite q
      exact ⟨fun h => ⟨hfaults, hiff.mp h⟩, fun h => hiff.mpr h.2⟩
    · rw [hproblem] at hp
      cases hp
      cases hf
    · rw [hbad result hresult] at hok
      cases hok

/-- The second line updates a river that is not declared. The run reports that and nothing else,
and has the program but no network. -/
theorem run_agrees_with_its_steps_undeclared :
    let text := "River a = [10, 2.5]mm;\nb = 3mm; Capacity a = 9ML;"
    let f : Failure := .statement "Cannot update undefined river 'b'." (some 2) (some "b")
    (∀ t ∈ (Scan.ofText text : Scan Float).tokens, t.All (¬Amount.IsInfinite ·)) ∧
      (run .default "" text).diagnostics = f.diagnostics ∧
      ∃ result, (run .default "" text).result = .ok result ∧ result.ok = false ∧
        result.program.isSome ∧ result.network.isNone := by
  intro text f
  have hfinite : ∀ t ∈ (Scan.ofText text : Scan Float).tokens, t.All (¬Amount.IsInfinite ·) := by
    decide +kernel
  have hreported : (Steps.ofText .default "" text).problem.bind Problem.failure? = some f := by
    decide +kernel
  have hprogram : (Steps.ofText .default "" text).program.isSome := by decide +kernel
  have hnetwork : (Steps.ofText .default "" text).network.isNone := by decide +kernel
  obtain ⟨p, hp, hf⟩ := Option.bind_eq_some_iff.mp hreported
  have hread : ∀ unread, p ≠ .characters unread := by
    rintro unread rfl
    cases (show Failure.characters _ = .statement _ _ _ from Option.some.inj hf)
  obtain ⟨-, hbad, -, hrest⟩ := (run_agrees_with_its_steps .default "" hfinite).2.1 p f hp hf
  obtain ⟨hdiagnostics, result, hresult, hsame, hsame', -⟩ := hrest hread
  exact ⟨hfinite, hdiagnostics, result, hresult, hbad result hresult, hsame ▸ hprogram,
    hsame' ▸ hnetwork⟩

/-- A run can be without a result although its steps end in a problem that is reported. The
character that is not read is on the first line, and on the second it rains on too many days. -/
theorem run_without_result_behind_a_stray :
    ¬∀ (settings : Settings Float) (path text : String),
      (∀ t ∈ (Scan.ofText text : Scan Float).tokens, t.All (¬Amount.IsInfinite ·)) →
      ∀ p f, (Steps.ofText settings path text).problem = some p → p.failure? = some f →
        ∃ result, (run settings path text).result = .ok result ∧ result.ok = false := by
  intro h
  -- What is passed on is not what is reported: the tokens behind the stray are executed all the
  -- same.
  let text := "River a = 1mm; @\nRiver b = 5(100000000000000000000)mm; Capacity a = 1ML;"
  have hfinite : ∀ t ∈ (Scan.ofText text : Scan Float).tokens, t.All (¬Amount.IsInfinite ·) := by
    decide +kernel
  have hfaults : (Scan.ofText text : Scan Float).faults ≠ [] := by decide +kernel
  have hproblem := congrArg Steps.problem (Steps.ofText_of_unread .default "" hfaults)
  obtain ⟨result, hresult, -⟩ := h .default "" text hfinite _ _ hproblem rfl
  have hpassed : (run .default "" text).result.toOption.isNone = true := by decide +kernel
  rw [hresult] at hpassed
  cases hpassed

end Catchment
