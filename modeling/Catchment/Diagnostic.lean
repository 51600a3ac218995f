import Catchment.Failure

/-!
# `Catchment.Diagnostic`: problems as they are shown

A failure is shown as one or more diagnostics, one line each. Where capacities are
missing, the lines to add to the program follow.

* `Failure.diagnostics`: the diagnostics of a failure.
* `Diagnostic.format`, `Diagnostic.lines`: how a diagnostic is shown.
-/

set_option autoImplicit false

namespace Catchment

/-- How serious a problem is. Whatever is no error counts as a warning. -/
inductive Severity where
  | error
  | lesser (name : String)
deriving DecidableEq, Repr

namespace Severity

/-- The severity of a name. -/
def ofName (name : String) : Severity := if name = "error" then error else lesser name

/-- The name of a severity. -/
def name : Severity → String
  | error => "error"
  | lesser name => name

/-- How a severity is shown. -/
def label : Severity → String
  | error => "Error"
  | lesser _ => "Warning"

end Severity

/-- The part of a run in which a problem is found. -/
inductive Diagnostic.Kind where
  | lex | parse | runtime | configuration | capacity
  | other (name : String)
deriving DecidableEq, Repr

namespace Diagnostic.Kind

/-- The kind of a name. -/
def ofName : String → Kind
  | "lex" => lex
  | "parse" => parse
  | "runtime" => runtime
  | "configuration" => configuration
  | "capacity" => capacity
  | name => other name

/-- The name of a kind. -/
def name : Kind → String
  | lex => "lex"
  | parse => "parse"
  | runtime => "runtime"
  | configuration => "configuration"
  | capacity => "capacity"
  | other name => name

end Diagnostic.Kind

/-- A problem as it is shown. -/
structure Diagnostic where
  severity : Severity
  kind : Diagnostic.Kind
  message : String
  line : Option Int
  lexeme : Option String
  /-- Whether the problem is at the end of the text. -/
  atEnd : Bool
  /-- The rivers whose capacity is missing. -/
  names : List String
deriving DecidableEq, Repr

namespace Diagnostic

/-- An error with a message and a line. -/
def plain (kind : Kind) (message : String) (line : Option Int) : Diagnostic :=
  ⟨.error, kind, message, line, none, false, []⟩

/-- Whether a problem is an error. -/
def isError (d : Diagnostic) : Bool := d.severity == .error

/-- The place of a problem within its line. -/
def place (d : Diagnostic) : String :=
  if d.atEnd then " at end"
  else
    match d.lexeme with
    | some lexeme => " at '" ++ lexeme ++ "'"
    | none => ""

/-- A problem in one line. -/
def format (d : Diagnostic) : String :=
  let label := d.severity.label
  match d.line with
  | none => label ++ ": " ++ d.message
  | some line =>
    let place := d.place
    s!"[line {line}] {label}{place}: " ++ d.message

/-- The lines that show a problem. Missing capacities are listed as statements to be filled in. -/
def lines (d : Diagnostic) : List String :=
  d.format ::
    match d.kind with
    | .capacity => d.names.map fun name => s!"  Capacity {name} = <value>ML;"
    | _ => []

/-- The notice of a problem. -/
def notice {α : Type} (d : Diagnostic) : Notice α := .diagnosed d.isError d.format

end Diagnostic

/-- The diagnostics that show a failure. -/
def Failure.diagnostics : Failure → List Diagnostic
  | characters faults => faults.map fun (line, message) => .plain .lex message (some line)
  | grammar message line lexeme =>
    [⟨.error, .parse, message, some line, lexeme, lexeme.isNone, []⟩]
  | configuration message line _ => [.plain .configuration message line]
  | statement message line _ => [.plain .runtime message line]
  | capacity names =>
    [⟨.error, .capacity,
      "Capacity must be defined for all rivers. Missing capacity for: " ++ ", ".intercalate names,
      none, none, false, names⟩]
  | other message => [.plain .runtime message none]

end Catchment
