import Catchment.Proofs.Run.Stages
import Catchment.Proofs.Token.Cleared

/-!
# `Catchment.Proofs.Run.Cleared`: a run goes on behind what it does not read

A character that is not read takes nothing away from a run but its good end. The run
of a text is the run of the text with spaces in place of these characters, with one
diagnostic for each of them in front and a mark in the result that they were there.

* `Run.marked`: a run with such a mark.
* `runProgram_marked`: the mark changes nothing else.
* `run_eq_cleared`: the run of a text from that of the cleared text.
* `unread_characters_act_as_blanks`: the two runs side by side.
-/

set_option autoImplicit false

namespace Catchment

/-- A result with a mark that some of the text breaks the rules of writing, if there is to be
one. -/
def RunResult.marked (mark : Bool) (result : RunResult) : RunResult :=
  { result with syntaxError := result.syntaxError || mark }

/-- A run with such a mark on its result, if it has one. -/
def Run.marked (mark : Bool) (r : Run) : Run := { r with result := r.result.map (·.marked mark) }

/-- A run that stops may be marked before it stops. -/
theorem Run.stopped_marked (mark : Bool) (p : Problem) (result : RunResult) :
    stopped p (result.marked mark) = (stopped p result).marked mark := by
  cases h : p.failure? with
  | none =>
    rw [stopped_of_failure?_eq_none h, stopped_of_failure?_eq_none h]
    rfl
  | some f =>
    rw [stopped_of_failure?_eq_some h, stopped_of_failure?_eq_some h]
    rfl

section
variable (settings : Settings Float) (mark : Bool) (result : RunResult)

/-- The run of a network carries the mark along and does not look at it. -/
theorem runNetwork_marked (n : Network Float) :
    runNetwork settings (result.marked mark) n = (runNetwork settings result n).marked mark := by
  cases h : simulate settings n with
  | error p =>
    rw [runNetwork_of_share _ _ h, runNetwork_of_share _ _ h]
    exact Run.stopped_marked mark p { result with network := some n, runtimeError := true }
  | ok outcome =>
    obtain ⟨progress, report⟩ := outcome
    cases herror : progress.error with
    | none =>
      rw [runNetwork_of_ok _ _ h herror, runNetwork_of_ok _ _ h herror]
      rfl
    | some e =>
      rw [runNetwork_of_error _ _ h herror, runNetwork_of_error _ _ h herror]
      let reached : RunResult :=
        { result with network := some progress.network, report := report, runtimeError := true }
      exact congrArg (fun r => (Run.told progress.events r).noticed progress.notices)
        (Run.stopped_marked mark (.simulation e) reached)

/-- The mark goes with a program through its run and changes nothing else. -/
theorem runProgram_marked (p : Program Float) :
    runProgram settings (result.marked mark) p = (runProgram settings result p).marked mark := by
  cases h : (Network.empty.execute p.statements).error with
  | none =>
    rw [runProgram_of_ok _ _ h, runProgram_of_ok _ _ h]
    exact congrArg (Run.noticed _)
      (runNetwork_marked settings mark { result with program := some p } _)
  | some e =>
    rw [runProgram_of_error _ _ h, runProgram_of_error _ _ h]
    let reached : RunResult := { result with program := some p, runtimeError := true }
    exact congrArg (Run.noticed _) (Run.stopped_marked mark (.statement e) reached)

end

/-- The run of a text is the run of the cleared text, with the characters that are not read
reported in front, and marked if there are any. -/
theorem run_eq_cleared (settings : Settings Float) (path text : String) :
    let scan : Scan Float := .ofText text
    run settings path text =
      ((run settings path (Scan.cleared text)).marked (!scan.faults.isEmpty)).preceded
        scan.failure.dispatches := by
  intro scan
  have hclear : (Scan.ofText (Scan.cleared text) : Scan Float) = { scan with faults := [] } :=
    Scan.ofText_cleared text
  -- Both texts have the same tokens, so they are the same program or break the grammar alike.
  cases h : Program.ofTokens path scan.tokens scan.endLine with
  | ok program =>
    have h' : Program.ofTokens path (Scan.ofText (Scan.cleared text) : Scan Float).tokens
        (Scan.ofText (Scan.cleared text) : Scan Float).endLine = .ok program := by
      rw [hclear]
      exact h
    rw [run_of_ok settings h, run_of_ok settings h', hclear]
    exact congrArg (Run.preceded scan.failure.dispatches)
      (runProgram_marked settings (!scan.faults.isEmpty) ⟨none, none, none, false, false⟩ program)
  | error e =>
    have h' : Program.ofTokens path (Scan.ofText (Scan.cleared text) : Scan Float).tokens
        (Scan.ofText (Scan.cleared text) : Scan Float).endLine = .error e := by
      rw [hclear]
      exact h
    rw [run_of_error settings h, run_of_error settings h', hclear]
    exact congrArg (Run.preceded scan.failure.dispatches)
      (Run.stopped_marked (!scan.faults.isEmpty) e.problem ⟨none, none, none, true, false⟩)

/-- Characters that are not read act as blanks. The cleared text, in which each of them is a
space, has the tokens of the text on the same lines, and no fault. The run of the text is passed
on a problem if and only if that of the cleared text is, and has the same result otherwise, but
for the mark. It tells and notices the same, and has the same diagnostics behind one for each
character that is not read. -/
theorem unread_characters_act_as_blanks (settings : Settings Float) (path text : String) :
    let scan : Scan Float := .ofText text
    let r := run settings path text
    let blank := run settings path (Scan.cleared text)
    (Scan.ofText (Scan.cleared text) : Scan Float) = ⟨scan.tokens, [], scan.endLine⟩ ∧
      (∀ p, r.result = .error p ↔ blank.result = .error p) ∧
      (∀ result, blank.result = .ok result →
        r.result =
          .ok { result with syntaxError := result.syntaxError || !scan.faults.isEmpty }) ∧
      r.events = blank.events ∧ r.notices = blank.notices ∧
      r.diagnostics = scan.faults.map (fun (line, fault) =>
        .plain .lex fault.message (some line)) ++ blank.diagnostics := by
  intro scan r blank
  have heq : r = (blank.marked (!scan.faults.isEmpty)).preceded scan.failure.dispatches :=
    run_eq_cleared settings path text
  have hdiagnostics : scan.failure.diagnostics = scan.faults.map fun (line, fault) =>
      .plain .lex fault.message (some (line : Int)) := by
    rw [Scan.failure, Failure.diagnostics, List.map_map]
    rfl
  refine ⟨Scan.ofText_cleared text, fun p => ?_, fun result hresult => ?_, ?_, ?_, ?_⟩
  · rw [heq, Run.result_preceded, Run.marked]
    cases blank.result with
    | ok _ => constructor <;> intro h <;> cases h
    | error _ => exact Iff.rfl
  · rw [heq, Run.result_preceded, Run.marked, hresult]
    rfl
  · rw [heq, Run.events_preceded]
    rfl
  · rw [heq, Run.notices_preceded, Failure.filterMap_notice?_dispatches]
    rfl
  · rw [heq, Run.diagnostics_preceded, Failure.filterMap_diagnostic?_dispatches, hdiagnostics]
    rfl

end Catchment
