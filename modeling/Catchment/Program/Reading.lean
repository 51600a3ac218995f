import Catchment.Expr.Reading

/-!
# `Catchment.Program.Reading`: programs, read token by token

A statement is a keyword, a name, an equals sign, a value and a semicolon; an
update has no keyword. `Stage` says how much of the next statement has been read.
A token moves the stage on, or completes a statement, or cannot stand where it
does, and then `Stage.expected` is what should have stood there.

* `Stage.step`: what a token does at a stage.
* `Stage.readAll`: the statements that a row of tokens spells.
* `Program.ofTokens`: the program of a row of tokens.
-/

set_option autoImplicit false

namespace Catchment

/-- The forms of statement whose value is an expression. -/
inductive RouteForm where
  | river | update | flow
deriving DecidableEq, Repr

/-- The form as one of the six. -/
def RouteForm.form : RouteForm → Form
  | river => .river
  | update => .update
  | flow => .flow

/-- What the form declares. -/
def RouteForm.declare {α : Type} : RouteForm → Expr α → Declaration α
  | river => .river
  | update => .update
  | flow => .flow

/-- The name that a statement declares, and the line of that name. -/
structure Heading where
  name : String
  line : Int
deriving DecidableEq, Repr

/-- The statement under a heading. -/
def Heading.statement {α : Type} (h : Heading) (d : Declaration α) : Statement α :=
  ⟨h.name, h.line, d⟩

/-- How much of a statement has been read. -/
inductive Stage (α : Type) where
  /-- Nothing. -/
  | start
  /-- A keyword. -/
  | keyword (form : Form)
  /-- A keyword, or none, and a name. -/
  | named (form : Form) (h : Heading)
  /-- Up to some point in an expression. -/
  | route (form : RouteForm) (h : Heading) (reading : Expr.Reading α)
  /-- An equals sign, with the days of outflow to come. -/
  | flowOut (h : Heading)
  | flowOutDays (h : Heading) (days : α)
  /-- An equals sign, with a capacity to come. -/
  | capacity (h : Heading)
  | capacityVolume (h : Heading) (volume : α)
  | capacityUnit (h : Heading) (volume : α)
  /-- An equals sign, with the capacity of a dam to come. -/
  | dam (h : Heading)
  | damCapacity (h : Heading) (capacity : α)
  /-- A capacity with its unit. The statement may end here. -/
  | damUnit (h : Heading) (capacity : α)
  /-- The word for what the dam keeps. -/
  | damRelease (h : Heading) (capacity : α)
  | damPercent (h : Heading) (capacity percent : α)
  | damPercentSign (h : Heading) (capacity percent : α)

namespace Stage

variable {α : Type}

/-- The stage behind the equals sign of a form. -/
def afterEquals (h : Heading) : Form → Stage α
  | .river => route .river h .start
  | .update => route .update h .start
  | .flow => route .flow h .start
  | .capacity => capacity h
  | .flowOut => flowOut h
  | .dam => dam h

/-- What is expected where the next token cannot stand. -/
def expected : Stage α → Expectation
  | start => .statement
  | keyword form => .name form
  | named form _ => .equals form
  | route form _ reading =>
    match reading.ending with
    | .ok _ => .semicolon form.form
    | .error missing => missing
  | flowOut _ => .number
  | flowOutDays .. => .semicolon .flowOut
  | capacity _ => .number
  | capacityVolume .. => .numberUnit
  | capacityUnit .. => .semicolon .capacity
  | dam _ => .damCapacity
  | damCapacity .. => .damUnit
  | damUnit .. => .semicolon .dam
  | damRelease .. => .damPercent
  | damPercent .. => .damPercentSign
  | damPercentSign .. => .semicolon .dam

/-- What a token does: the stage that follows, and the statement it completes, if any. -/
abbrev StageMove (α : Type) := Expr.Move (Stage α × Option (Statement α))

/-- The form that a keyword opens. -/
def formOf? : Token.Kind α → Option Form
  | .river => some .river
  | .flow => some .flow
  | .capacity => some .capacity
  | .flowOut => some .flowOut
  | .dam => some .dam
  | _ => none

variable [Amount α]

/-- What a token does at a stage. -/
def step (s : Stage α) (t : Token α) : StageMove α :=
  let go (next : Stage α) : StageMove α := .take (next, none)
  let finish (h : Heading) (d : Declaration α) : StageMove α :=
    .take (start, some (h.statement d))
  match s, t.kind with
  | start, .identifier => go (named .update ⟨t.lexeme, t.line⟩)
  | start, kind =>
    match formOf? kind with
    | some form => go (keyword form)
    | none => .refuse
  | keyword form, .identifier => go (named form ⟨t.lexeme, t.line⟩)
  | named form h, .equals => go (afterEquals h form)
  | route form h reading, .semicolon =>
    match reading.ending with
    | .ok e => finish h (form.declare e)
    | .error _ => .refuse
  | route form h reading, _ =>
    match reading.step t with
    | .take next => go (route form h next)
    | .refuse => .refuse
    | .noDays reason => .noDays reason
  | flowOut h, .number v => go (flowOutDays h v)
  | flowOutDays h v, .semicolon => finish h (.flowOut v)
  | capacity h, .number v => go (capacityVolume h v)
  | capacityVolume h v, .ml => go (capacityUnit h v)
  | capacityUnit h v, .semicolon => finish h (.capacity v)
  | dam h, .number v => go (damCapacity h v)
  | damCapacity h v, .ml => go (damUnit h v)
  | damUnit h v, .semicolon => finish h (.dam v (defaultRelease : α))
  | damUnit h v, .release => go (damRelease h v)
  | damRelease h v, .number p => go (damPercent h v p)
  | damPercent h v p, .percent => go (damPercentSign h v p)
  | damPercentSign h v p, .semicolon => finish h (.dam v p)
  | _, _ => .refuse

/-- The statements that a row of tokens spells, from a stage on. The first token that cannot stand
where it does ends the reading. -/
def readAll (endLine : Nat) : Stage α → List (Token α) → Except ReadingError (List (Statement α))
  | start, [] => .ok []
  | s, [] => .error (.grammar (.before s.expected ([] : List (Token α)) endLine))
  | s, t :: ts =>
    match s.step t with
    | .take (next, completed) =>
      match readAll endLine next ts with
      | .ok statements => .ok (completed.toList ++ statements)
      | .error e => .error e
    | .refuse => .error (.grammar (.before s.expected (t :: ts) endLine))
    | .noDays reason => .error (.days reason)

end Stage

namespace Program

variable {α : Type} [Amount α]

/-- The program that a row of tokens spells. -/
def ofTokens (path : String) (tokens : List (Token α)) (endLine : Nat) :
    Except ReadingError (Program α) :=
  (Stage.readAll endLine .start tokens).map (⟨path, ·⟩)

end Program

end Catchment
