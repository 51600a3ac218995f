import Catchment.Diagnostic
import Catchment.Problem

/-!
# `Catchment.Run`: from a text to the end of its simulation

A text is read, its statements are executed, and the network they declare is
simulated. What goes wrong is shown as diagnostics, and how far the run got is its
result. Characters that are not read do not end a run: it goes on with the tokens
around them. Any other problem does. A problem that is not for the author of the
text to mend is not shown but passed on.

* `simulate`: the simulation of a network.
* `run`: the run of a text.
* `runBytes`: the run of a file.
-/

set_option autoImplicit false

namespace Catchment

/-- Something sent out by a run: a diagnostic, or a notice for the log. -/
inductive Dispatch where
  | diagnostic (d : Diagnostic)
  | notice (n : Notice Float)

/-- A diagnostic that is sent out, if it is one. -/
def Dispatch.diagnostic? : Dispatch → Option Diagnostic
  | diagnostic d => some d
  | notice _ => none

/-- A notice that is sent out, if it is one. -/
def Dispatch.notice? : Dispatch → Option (Notice Float)
  | diagnostic _ => none
  | notice n => some n

/-- The diagnostics of a failure, as they are sent out. -/
def Failure.dispatches (f : Failure) : List Dispatch := f.diagnostics.map .diagnostic

/-- How far a run got. -/
structure RunResult where
  program : Option (Program Float)
  network : Option (Network Float)
  report : Option (RunReport Float)
  syntaxError : Bool
  runtimeError : Bool

/-- Whether nothing went wrong. -/
def RunResult.ok (r : RunResult) : Bool := !(r.syntaxError || r.runtimeError)

/-- What a run sends out and tells, and how far it got. -/
structure Run where
  dispatches : List Dispatch
  events : List (Event Float)
  result : Except Problem RunResult

namespace Run

/-- The diagnostics of a run, in order. -/
def diagnostics (r : Run) : List Diagnostic := r.dispatches.filterMap Dispatch.diagnostic?

/-- The notices of a run, in order. -/
def notices (r : Run) : List (Notice Float) := r.dispatches.filterMap Dispatch.notice?

/-- A run with something sent out before it. -/
def preceded (before : List Dispatch) (r : Run) : Run :=
  { r with dispatches := before ++ r.dispatches }

/-- A run with notices before it. -/
def noticed (notices : List (Notice Float)) (r : Run) : Run := r.preceded (notices.map .notice)

/-- A run with events before it. -/
def told (events : List (Event Float)) (r : Run) : Run := { r with events := events ++ r.events }

/-- A run that ends with a result. -/
def ended (result : RunResult) : Run := ⟨[], [], .ok result⟩

/-- A run that a problem ends. If the problem is reported, it is shown, and the run has a
result. -/
def stopped (p : Problem) (result : RunResult) : Run :=
  match p.failure? with
  | some failure => (ended result).preceded failure.dispatches
  | none => ⟨[], [], .error p⟩

end Run

/-- The simulation of a network. -/
def simulate (settings : Settings Float) (n : Network Float) :
    Except Problem (Progress Float × Option (RunReport Float)) :=
  match dailyShare n.outflowDays with
  | .ok share => .ok ((Simulation.start settings share n).run n)
  | .error reason => .error (.share reason)

/-- The last part of a run: the simulation of the network that a program declares. -/
def runNetwork (settings : Settings Float) (result : RunResult) (n : Network Float) : Run :=
  match simulate settings n with
  | .error p => .stopped p { result with network := some n, runtimeError := true }
  | .ok (progress, report) =>
    let reached := { result with network := some progress.network, report := report }
    Run.noticed progress.notices <| Run.told progress.events <|
      match progress.error with
      | none => .ended reached
      | some e => .stopped (.simulation e) { reached with runtimeError := true }

/-- The middle part of a run: the execution of a program. -/
def runProgram (settings : Settings Float) (result : RunResult) (p : Program Float) : Run :=
  let execution := Network.empty.execute p.statements
  let reached := { result with program := some p }
  Run.noticed (.parsed p.statements.length :: execution.notices) <|
    match execution.error with
    | none => runNetwork settings reached execution.network
    | some e => .stopped (.statement e) { reached with runtimeError := true }

/-- The run of a text. -/
def run (settings : Settings Float) (path text : String) : Run :=
  let scan : Scan Float := .ofText text
  let result : RunResult := ⟨none, none, none, !scan.faults.isEmpty, false⟩
  Run.preceded scan.failure.dispatches <|
    match Program.ofTokens path scan.tokens scan.endLine with
    | .ok program => runProgram settings result program
    | .error e => .stopped e.problem { result with syntaxError := true }

/-- The run of the text that the bytes of a file encode. -/
def runBytes (settings : Settings Float) (path : String) (bytes : ByteArray) : Run :=
  match decoded? bytes with
  | some text => run settings path text
  | none => ⟨[], [], .error .notText⟩

end Catchment
