import Catchment.DailyShare
import Catchment.Failure
import Catchment.Program.Reading
import Catchment.Settings.Check
import Catchment.Text.Decoded

/-!
# `Catchment.Problem`: what can go wrong, from text to simulation

Each step of the way from a text to its simulation has its own errors. `Problem`
brings them together. Most are reported to the author of a text and have a
`Failure`; the others are passed on as they are.

* `Program.read`: the program of a text, or the problem with it.
* `Problem.failure?`: what is reported of a problem.
-/

set_option autoImplicit false

namespace Catchment

/-- What is asked of a simulation that has to be set up, or of the report of a finished run. -/
inductive Request where
  | validate
  | day
  | rain
  | arrivals
  | outflow
  | level
  | run
  | finish
  | frame
deriving DecidableEq, Repr

/-- What can go wrong. -/
inductive Problem where
  /-- Some characters of a text are not read. -/
  | characters (scan : Scan Float)
  | grammar (error : SyntaxError)
  | statement (error : EvaluationError Float)
  | simulation (error : SimulationError)
  /-- A number of days has no whole part. -/
  | days (reason : Numeral.NoWholePart)
  /-- A number of days has no daily share. -/
  | share (reason : ShareError)
  /-- Some settings are turned down. -/
  | settings (complaints : List (String × Complaint))
  /-- There is nothing under a name. -/
  | unknown (name : String)
  /-- There is nothing at a place in a list. -/
  | outOfRange
  /-- Something is asked of a simulation or a report, and there is none. -/
  | missing (request : Request)
  /-- The bytes of a file encode no text. -/
  | notText
  /-- A path has a null character in it. -/
  | nullInPath

/-- What is reported of a problem, if it is reported. -/
def Problem.failure? : Problem → Option Failure
  | characters scan => some scan.failure
  | grammar error => some error.failure
  | statement error => error.failure?
  | simulation error => error.failure?
  | days _ | share _ | settings _ | unknown _ | outOfRange | missing _ | notText | nullInPath =>
      none

/-- The problem with a row of tokens that is not read to its end. -/
def ReadingError.problem : ReadingError → Problem
  | grammar error => .grammar error
  | days reason => .days reason

/-- To tell otherwise what went wrong does not make it go right. -/
theorem mapError_eq_ok_iff {β δ ε : Type} {x : Except ε β} {f : ε → δ} {v : β} :
    x.mapError f = .ok v ↔ x = .ok v := by
  cases x with
  | ok _ => exact ⟨fun h => by cases h; rfl, fun h => by cases h; rfl⟩
  | error _ => exact iff_of_false nofun nofun

/-- A problem with the grammar is a break of it. -/
theorem ReadingError.mapError_problem_eq_grammar_iff {β : Type} {x : Except ReadingError β}
    {e : SyntaxError} : x.mapError problem = .error (.grammar e) ↔ x = .error (.grammar e) := by
  cases x with
  | ok _ => exact iff_of_false nofun nofun
  | error e' =>
    cases e' with
    | grammar _ => exact ⟨fun h => by cases h; rfl, fun h => by cases h; rfl⟩
    | days _ => exact iff_of_false nofun nofun

/-- The tokens of a text, or the problem with its characters. -/
def Scan.read (text : String) : Except Problem (Scan Float) :=
  let scan : Scan Float := .ofText text
  match scan.faults with
  | [] => .ok scan
  | _ :: _ => .error (.characters scan)

/-- The program of a text, or the problem with it. -/
def Program.read (path text : String) : Except Problem (Program Float) := do
  let scan ← Scan.read text
  (Program.ofTokens path scan.tokens scan.endLine).mapError ReadingError.problem

/-- Where every character of a text is read, its program is that of its tokens. -/
theorem Program.read_of_faults_eq_nil (path : String) {text : String}
    (h : (Scan.ofText text : Scan Float).faults = []) :
    Program.read path text = (Program.ofTokens path (Scan.ofText text : Scan Float).tokens
      (Scan.ofText text : Scan Float).endLine).mapError ReadingError.problem := by
  unfold Program.read Scan.read
  simp only [h]
  rfl

/-- Where a character of a text is not read, that is the problem with it. -/
theorem Program.read_of_faults_ne_nil (path : String) {text : String}
    (h : (Scan.ofText text : Scan Float).faults ≠ []) :
    Program.read path text = .error (.characters (.ofText text)) := by
  obtain ⟨fault, rest, hfaults⟩ := List.exists_cons_of_ne_nil h
  unfold Program.read Scan.read
  simp only [hfaults]
  rfl

/-- A text is a program if every character of it is read and its tokens spell the program. -/
theorem Program.read_eq_ok_iff {path text : String} {p : Program Float} :
    Program.read path text = .ok p ↔ (Scan.ofText text : Scan Float).faults = [] ∧
      Program.ofTokens path (Scan.ofText text : Scan Float).tokens
        (Scan.ofText text : Scan Float).endLine = .ok p := by
  by_cases h : (Scan.ofText text : Scan Float).faults = []
  · rw [Program.read_of_faults_eq_nil path h, mapError_eq_ok_iff, and_iff_right h]
  · rw [Program.read_of_faults_ne_nil path h]
    exact iff_of_false nofun fun hread => h hread.1

/-- A text breaks the grammar if every character of it is read and its tokens break the
grammar. -/
theorem Program.read_eq_grammar_iff {path text : String} {e : SyntaxError} :
    Program.read path text = .error (.grammar e) ↔ (Scan.ofText text : Scan Float).faults = [] ∧
      Program.ofTokens path (Scan.ofText text : Scan Float).tokens
        (Scan.ofText text : Scan Float).endLine = .error (.grammar e) := by
  by_cases h : (Scan.ofText text : Scan Float).faults = []
  · rw [Program.read_of_faults_eq_nil path h, ReadingError.mapError_problem_eq_grammar_iff,
      and_iff_right h]
  · rw [Program.read_of_faults_ne_nil path h]
    exact iff_of_false nofun fun hread => h hread.1

/-- The program in the bytes of a file, or the problem with it. -/
def Program.readBytes (path : String) (bytes : ByteArray) : Except Problem (Program Float) :=
  match decoded? bytes with
  | some text => Program.read path text
  | none => .error .notText

/-- The expression at the front of a text and the tokens behind it, or the problem with it. -/
def Expr.read (text : String) :
    Except Problem (Expr Float × List (Token Float) × Scan Float) := do
  let scan ← Scan.read text
  let (e, rest) ← (readExpr scan.endLine .start scan.tokens).mapError ReadingError.problem
  return (e, rest, scan)

/-- The network that a program declares, or the problem with it. -/
def Program.network (p : Program Float) : Except Problem (Network Float) :=
  let execution := Network.empty.execute p.statements
  match execution.error with
  | none => .ok execution.network
  | some e => .error (.statement e)

end Catchment
