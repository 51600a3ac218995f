import Catchment.Expectation
import Catchment.Expr
import Catchment.Token

/-!
# `Catchment.Expr.Reading`: expressions, read token by token

An expression is read from left to right, one token at a time. What has been read
so far is a value, `Reading`: the operand that is being read, the operators to its
left that wait for it, and the brackets that are still open. A plus binds tighter
than an arrow, and both group to the left, so at most one of each can wait at one
level of brackets.

* `Reading.step`: what a token does to what has been read.
* `Reading.ending`: the expression, if it may end here, or what is missing.
* `readExpr`: the longest expression at the front of a row of tokens.
-/

set_option autoImplicit false

namespace Catchment

namespace Expr

/-- The operators at one level of brackets that wait for what stands on their right. -/
structure Waiting (α : Type) where
  /-- What stands on the left of a waiting arrow, and the line of the arrow. -/
  arrow : Option (Expr α × Int)
  /-- What stands on the left of a waiting plus, and the line of the plus. -/
  plus : Option (Expr α × Int)

namespace Waiting

variable {α : Type}

/-- Nothing waits. -/
def nothing : Waiting α := ⟨none, none⟩

/-- An operand joined to what a waiting operator has on its left. -/
def join (operator : Operator) (left : Option (Expr α × Int)) (e : Expr α) : Expr α :=
  match left with
  | none => e
  | some (l, line) => .binary operator l e line

/-- The sum that an operand ends. -/
def sum (w : Waiting α) (e : Expr α) : Expr α := join .plus w.plus e

/-- The whole expression that an operand ends. -/
def whole (w : Waiting α) (e : Expr α) : Expr α := join .arrow w.arrow (w.sum e)

end Waiting

/-- How much of an operand has been read. -/
inductive Operand (α : Type) where
  /-- Nothing. -/
  | missing
  /-- A number, which may be an amount of rain. -/
  | number (value : α) (line : Int)
  /-- A number and an opening parenthesis. -/
  | daysOpen (value : α) (line : Int)
  /-- A number, an opening parenthesis and a number of days. -/
  | days (value count : α) (line : Int)
  /-- A number and a number of days in parentheses. -/
  | daysClosed (value count : α) (line : Int)
  /-- The amounts of a series in which another one must follow. -/
  | seriesOpen (amounts : List α) (line : Int)
  /-- The amounts of a series that may be closed. -/
  | series (amounts : List α) (line : Int)
  /-- A closed series. -/
  | seriesClosed (amounts : List α) (line : Int)
  /-- All of it. -/
  | complete (e : Expr α)

/-- The operand as an expression, or what is missing from it. -/
def Operand.ending {α : Type} : Operand α → Except Expectation (Expr α)
  | missing => .error .operand
  | number value line => .ok (.number value line)
  | daysOpen .. => .error .days
  | days .. => .error .daysClosing
  | daysClosed .. => .error .rainUnit
  | seriesOpen .. => .error .seriesAmount
  | series .. => .error .seriesClosing
  | seriesClosed .. => .error .seriesUnit
  | complete e => .ok e

/-- What has been read of an expression. -/
structure Reading (α : Type) where
  operand : Operand α
  waiting : Waiting α
  /-- For every open parenthesis, from the inmost outward, what waits around it and its line. -/
  outer : List (Waiting α × Int)

/-- What a token does. -/
inductive Move (σ : Type) where
  /-- It is taken. -/
  | take (next : σ)
  /-- It cannot stand here. -/
  | refuse
  /-- It completes rain for a number of days that has no whole part. -/
  | noDays (reason : Numeral.NoWholePart)

namespace Reading

variable {α : Type}

/-- Nothing has been read. -/
def start : Reading α := ⟨.missing, .nothing, []⟩

/-- The expression, if it may end here, or what is missing: the rest of an operand first, then the
parenthesis that closes the inmost open one. -/
def ending (r : Reading α) : Except Expectation (Expr α) :=
  match r.operand.ending, r.outer with
  | .error missing, _ => .error missing
  | .ok _, _ :: _ => .error .closing
  | .ok e, [] => .ok (r.waiting.whole e)

/-- What a token does behind a whole operand: an operator waits for the next operand, and a
closing parenthesis ends the level. -/
def afterOperand (r : Reading α) (e : Expr α) (t : Token α) : Move (Reading α) :=
  match t.kind with
  | .plus => .take ⟨.missing, ⟨r.waiting.arrow, some (r.waiting.sum e, t.line)⟩, r.outer⟩
  | .arrow => .take ⟨.missing, ⟨some (r.waiting.whole e, t.line), none⟩, r.outer⟩
  | .rightParen =>
    match r.outer with
    | [] => .refuse
    | (w, line) :: outer => .take ⟨.complete (.group (r.waiting.whole e) line), w, outer⟩
  | _ => .refuse

variable [Amount α]

/-- What a token does to what has been read. -/
def step (r : Reading α) (t : Token α) : Move (Reading α) :=
  let operand (o : Operand α) : Move (Reading α) := .take { r with operand := o }
  match r.operand, t.kind with
  | .missing, .number v => operand (.number v t.line)
  | .missing, .identifier => operand (.complete (.reference t.lexeme t.line))
  | .missing, .leftBracket => operand (.seriesOpen [] t.line)
  | .missing, .leftParen => .take ⟨.missing, .nothing, (r.waiting, (t.line : Int)) :: r.outer⟩
  | .number v line, .leftParen => operand (.daysOpen v line)
  | .number v line, .mm => operand (.complete (.rain v 1 line))
  | .number v line, _ => r.afterOperand (.number v line) t
  | .daysOpen v line, .number n => operand (.days v n line)
  | .days v n line, .rightParen => operand (.daysClosed v n line)
  | .daysClosed v n line, .mm =>
    match Amount.truncate n with
    | .ok days => operand (.complete (.rain v days line))
    | .error reason => .noDays reason
  | .seriesOpen vs line, .number v => operand (.series (vs ++ [v]) line)
  | .series vs line, .comma => operand (.seriesOpen vs line)
  | .series vs line, .rightBracket => operand (.seriesClosed vs line)
  | .seriesClosed vs line, .mm => operand (.complete (.series vs line))
  | .complete e, _ => r.afterOperand e t
  | _, _ => .refuse

end Reading

end Expr

/-- The place of a syntax error: the line and characters of the next token, or the last line. -/
def SyntaxError.before {α : Type} (expected : Expectation) (tokens : List (Token α))
    (endLine : Nat) :
    SyntaxError :=
  match tokens with
  | [] => ⟨expected, endLine, none⟩
  | t :: _ => ⟨expected, t.line, some t.lexeme⟩

/-- Goes on reading an expression as long as the next token can stand in it, and gives the
expression and the tokens behind it. -/
def readExpr {α : Type} [Amount α] (endLine : Nat) (r : Expr.Reading α) :
    List (Token α) → Except ReadingError (Expr α × List (Token α))
  | [] => stop []
  | t :: ts =>
    match r.step t with
    | .take next => readExpr endLine next ts
    | .noDays reason => .error (.days reason)
    | .refuse => stop (t :: ts)
where
  /-- Ends the expression in front of some tokens. -/
  stop (rest : List (Token α)) : Except ReadingError (Expr α × List (Token α)) :=
    match r.ending with
    | .ok e => .ok (e, rest)
    | .error missing => .error (.grammar (.before missing rest endLine))

end Catchment
