/-!
# `Catchment.Expr`: what the statements of a program say

A program is a list of statements. Three kinds of statement have an expression as
their value, the other three have plain numbers. Every statement and every
expression records a line, which is quoted when something is wrong with it.

* `Expr`: numbers, rain, names, and the two operators on them.
* `Statement`: a name, a line, and what is declared under that name.
* `Program`: the statements of one text.
-/

set_option autoImplicit false

namespace Catchment

/-- The two operators. -/
inductive Operator where
  /-- Adds numbers, and puts rivers together. -/
  | plus
  /-- Leads water from the rivers on its left to those on its right. -/
  | arrow
deriving DecidableEq, Repr

/-- An expression over amounts. -/
inductive Expr (α : Type) where
  | number (value : α) (line : Int)
  /-- The same rain on each of a number of days. -/
  | rain (amount : α) (days : Int) (line : Int)
  /-- One amount of rain a day. -/
  | series (amounts : List α) (line : Int)
  /-- A river or dam, by name. -/
  | reference (name : String) (line : Int)
  /-- An expression in parentheses. -/
  | group (inner : Expr α) (line : Int)
  | binary (operator : Operator) (left right : Expr α) (line : Int)
deriving Repr

/-- What a statement declares. -/
inductive Declaration (α : Type) where
  /-- A new river, with its rain. -/
  | river (rain : Expr α)
  /-- More rain for a river. -/
  | update (rain : Expr α)
  /-- A connection between rivers. -/
  | flow (route : Expr α)
  /-- What a river can hold. -/
  | capacity (volume : α)
  /-- For how many days water flows out. -/
  | flowOut (days : α)
  /-- A dam: what it can hold, and how much of that it keeps, in percent. -/
  | dam (capacity release : α)
deriving Repr

/-- A statement: something declared under a name. -/
structure Statement (α : Type) where
  name : String
  line : Int
  declares : Declaration α
deriving Repr

/-- The statements of a text, and the path it was read from. -/
structure Program (α : Type) where
  path : String
  statements : List (Statement α)
deriving Repr

/-- How much of its capacity a dam keeps where a program does not say, in percent. -/
def defaultRelease : Nat := 80

end Catchment
