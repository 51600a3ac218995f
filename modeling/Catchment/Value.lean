import Catchment.Network

/-!
# `Catchment.Value`: what expressions stand for

An expression stands for a number, for rain, for one or more rivers, or for a
connection between rivers. An operator on operands that it does not join stands
for nothing, for a stated reason, and a statement that is given nothing has
nothing to declare.

* `Value.endpoints?`: the rivers that a value puts at an end of a connection.
* `Value.add`, `Value.connect`: the two operators.
-/

set_option autoImplicit false

namespace Catchment

/-- The words for what a value is. -/
inductive Value.Noun where
  | number | rainfall | river | riverList | flow | nothing
deriving DecidableEq, Repr

/-- The words for what a value is, as they are written. -/
def Value.Noun.text : Value.Noun → String
  | number => "number"
  | rainfall => "rainfall"
  | river => "river"
  | riverList => "river list"
  | flow => "flow"
  | nothing => "no value"

/-- Why an operator stands for nothing. -/
inductive NoValue where
  /-- The operands cannot be put together. -/
  | sum (left right : Value.Noun)
  /-- Water cannot come from the left operand. -/
  | source (left : Value.Noun)
  /-- Water cannot go to the right operand. -/
  | destination (right : Value.Noun)
deriving DecidableEq, Repr

/-- What is said of an operator that stands for nothing. -/
def NoValue.message : NoValue → String
  | sum left right => s!"cannot add {left.text} and {right.text}"
  | source left => s!"flow source must be a river, not a {left.text}"
  | destination right => s!"flow destination must be a river, not a {right.text}"

/-- What an expression stands for. -/
inductive Value (α : Type) where
  | number (value : α)
  /-- The same rain on each of a number of days. -/
  | rain (amount : α) (days : Int)
  /-- One amount of rain a day. -/
  | series (amounts : List α)
  | river (name : String)
  /-- Rivers put together, each as often as it was named. -/
  | rivers (names : List String)
  | flow (connection : Connection α)
  | nothing (reason : NoValue)

namespace Value

variable {α : Type}

/-- The word for what a value is. -/
def noun : Value α → Noun
  | number _ => .number
  | rain .. => .rainfall
  | series _ => .rainfall
  | river _ => .river
  | rivers _ => .riverList
  | flow _ => .flow
  | nothing _ => .nothing

/-- The rivers that a value puts at an end of a connection, if it can stand there. -/
def endpoints? : Value α → Option (List String)
  | river name => some [name]
  | rivers names => some names
  | number _ | rain .. | series _ | flow _ | nothing _ => none

/-- Two values put together: numbers are added, and rivers are listed one after the other. -/
def add [Amount α] (a b : Value α) : Value α :=
  match a, b with
  | number x, number y => number (x + y)
  | _, _ =>
    match a.endpoints?, b.endpoints? with
    | some xs, some ys => rivers (xs ++ ys)
    | _, _ => nothing (.sum a.noun b.noun)

/-- Where water starts that a value leads on: the end of a connection, or the rivers
themselves. -/
def outlets? : Value α → Option (List String)
  | flow c => some c.destinations
  | a => a.endpoints?

/-- Water led from one value to another. -/
def connect (a b : Value α) : Value α :=
  match a.outlets?, b.endpoints? with
  | some sources, some destinations => flow (.leg sources destinations)
  | some _, none => nothing (.destination b.noun)
  | none, _ => nothing (.source a.noun)

/-- The connections that leading a value on leaves behind it: a connection that is led on is a leg
of its own. -/
def legs : Value α → List (Connection α)
  | flow c => [c]
  | number _ | rain .. | series _ | river _ | rivers _ | nothing _ => []

end Value

end Catchment
