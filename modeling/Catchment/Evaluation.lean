import Catchment.Expr
import Catchment.Notice

/-!
# `Catchment.Evaluation`: what expressions do to a network

To evaluate an expression is to find out what it stands for. On the way legs of
routes are laid: where a connection is led on, it is registered for itself.
`Evaluation` is the outcome of that: the legs, the notices, and a value or an
error. What was laid before an error stays.

* `Expr.evaluate`: the evaluation of an expression, given the rivers it may name.
* `EvaluationError`: what can go wrong in a statement.
-/

set_option autoImplicit false

namespace Catchment

/-- What can go wrong in a statement. -/
inductive EvaluationError (α : Type) where
  /-- An expression names something that is not declared. -/
  | undefined (name : String) (line : Int)
  /-- More rain is given to a river that is not declared. -/
  | undeclaredRiver (name : String) (line : Int)
  /-- Water is to flow out for too few days. -/
  | outflowTooShort (days : Int) (name : String) (line : Int)
  /-- A dam is to keep less than nothing or more than all. -/
  | releaseOutOfRange (percent : α) (name : String) (line : Int)
  /-- A number of days of outflow has no whole part. -/
  | outflowNotWhole (reason : Numeral.NoWholePart)
  /-- Rain falls on too many days. -/
  | rainTooLong (reason : RainError)

/-- The outcome of an evaluation. -/
structure Evaluation (α β : Type) where
  /-- The connections registered on the way, in order. -/
  legs : List (Connection α)
  /-- What is to be noticed on the way, in order. -/
  notices : List (Notice α)
  result : Except (EvaluationError α) β

namespace Evaluation

variable {α β γ : Type}

/-- A value found at once. -/
protected def pure (b : β) : Evaluation α β := ⟨[], [], .ok b⟩

/-- An evaluation that goes on with the value of another one, unless that one fails. -/
protected def bind (x : Evaluation α β) (f : β → Evaluation α γ) : Evaluation α γ :=
  match x.result with
  | .error e => ⟨x.legs, x.notices, .error e⟩
  | .ok b =>
    let y := f b
    ⟨x.legs ++ y.legs, x.notices ++ y.notices, y.result⟩

/-- Evaluations go on one after the other until one goes wrong. What is registered and noticed
comes in the same order. -/
instance : Monad (Evaluation α) where
  pure := Evaluation.pure
  bind := Evaluation.bind

/-- An evaluation that fails at once. -/
def fail (e : EvaluationError α) : Evaluation α β := ⟨[], [], .error e⟩

/-- The value of an operator, with a notice if it is none. -/
def found (line : Int) (legs : List (Connection α)) (v : Value α) : Evaluation α (Value α) :=
  match v with
  | .nothing reason => ⟨legs, [.noValue line reason], .ok v⟩
  | _ => ⟨legs, [], .ok v⟩

end Evaluation

/-- What an operator makes of two values. An arrow registers the connection on its left, if there
is one, before it looks at its right. -/
def Operator.apply {α : Type} [Amount α] (operator : Operator) (line : Int) (a b : Value α) :
    Evaluation α (Value α) :=
  match operator with
  | .plus => .found line [] (a.add b)
  | .arrow => .found line a.legs (a.connect b)

/-- The evaluation of an expression that may name the given rivers. Both operands of an operator
are evaluated, the left one first. -/
def Expr.evaluate {α : Type} [Amount α] (declared : String → Bool) :
    Expr α → Evaluation α (Value α)
  | .number v _ => pure (.number v)
  | .rain amount days _ => pure (.rain amount days)
  | .series amounts _ => pure (.series amounts)
  | .reference name line =>
    if declared name then pure (.river name) else .fail (.undefined name line)
  | .group e _ => e.evaluate declared
  | .binary operator left right line => do
    let a ← left.evaluate declared
    let b ← right.evaluate declared
    operator.apply line a b

end Catchment
