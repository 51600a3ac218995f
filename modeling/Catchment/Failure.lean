import Catchment.Expectation
import Catchment.Network.Execution
import Catchment.Simulation
import Catchment.Token.Scan

/-!
# `Catchment.Failure`: what is reported when a program cannot be run

A failure is what is left of an error once it is to be reported: its wording, and
the line, name or characters that it points at. Every error of the library that
is reported has a failure.

* `Failure.text`: a failure in one line.
* `SyntaxError.failure`, `EvaluationError.failure?`, `SimulationError.failure?`: the failures of
  errors.
-/

set_option autoImplicit false

namespace Catchment

/-- What is reported when a program cannot be run. -/
inductive Failure where
  /-- Characters that are not read, each with its line. -/
  | characters (faults : List (Int × String))
  /-- The grammar is broken at some characters, or at the end of the text. -/
  | grammar (message : String) (line : Int) (lexeme : Option String)
  /-- A statement goes wrong. -/
  | statement (message : String) (line : Option Int) (name : Option String)
  /-- A statement declares something that cannot be. -/
  | configuration (message : String) (line : Option Int) (name : Option String)
  /-- There are rivers without a capacity. -/
  | capacity (names : List String)
  /-- Anything else. -/
  | other (message : String)
deriving DecidableEq, Repr

namespace Failure

/-- A failure in one line. -/
def text : Failure → String
  | characters faults =>
      "; ".intercalate (faults.map fun (line, message) => s!"line {line}: {message}")
  | grammar message line lexeme =>
    let place := match lexeme with
      | none => "end"
      | some found => "'" ++ found ++ "'"
    s!"line {line}, at {place}: {message}"
  | statement message _ _ => message
  | configuration message _ _ => message
  | capacity names => "missing capacity for: " ++ ", ".intercalate names
  | other message => message

/-- The line that a failure points at. -/
def line : Failure → Option Int
  | characters faults => faults.head?.map (·.1)
  | grammar _ line _ => some line
  | statement _ line _ => line
  | configuration _ line _ => line
  | capacity _ => none
  | other _ => none

/-- Whether a failure comes from a statement. -/
def isStatement : Failure → Bool
  | statement .. | configuration .. => true
  | characters _ | grammar .. | capacity _ | other _ => false

end Failure

/-- The failure of a text with unread characters. -/
def Scan.failure {α : Type} (s : Scan α) : Failure :=
  .characters (s.faults.map fun (line, fault) => ((line : Int), fault.message))

/-- The failure of a broken grammar. -/
def SyntaxError.failure (e : SyntaxError) : Failure := .grammar e.expected.message e.line e.lexeme

/-- The failure of a statement that goes wrong. A number of days without a whole part is not
reported but passed on, and so is rain on too many days. -/
def EvaluationError.failure? {α : Type} [Amount α] : EvaluationError α → Option Failure
  | undefined name line => some (.statement s!"Undefined entity '{name}'." line name)
  | undeclaredRiver name line =>
      some (.statement s!"Cannot update undefined river '{name}'." line name)
  | outflowTooShort days name line =>
    some (.configuration s!"FlowOut must be at least {shortestOutflow} days. Given: {days} days."
      line name)
  | releaseOutOfRange percent name line =>
    let given := Amount.general percent
    some (.configuration s!"Dam release must be between 0% and 100%. Given: {given}%." line name)
  | outflowNotWhole _ | rainTooLong _ => none

/-- The failure of a simulation that does not go on. A dam without a record is not reported but
passed on. -/
def SimulationError.failure? : SimulationError → Option Failure
  | withoutCapacity names => some (.capacity names)
  | unrecordedDam _ => none

end Catchment
