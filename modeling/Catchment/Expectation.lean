import Catchment.Numeral

/-!
# `Catchment.Expectation`: what a reader of programs waits for

A text that breaks the grammar does so at one token, and at that token one thing
was expected. `Expectation` lists those things, and `message` words them.
-/

set_option autoImplicit false

namespace Catchment

/-- The six forms of statement. -/
inductive Form where
  | river | update | flow | capacity | flowOut | dam
deriving DecidableEq, Repr

namespace Form

/-- What a form of statement gives a name to. -/
def subject : Form → String
  | river | update => "river"
  | flow => "flow"
  | capacity => "capacity"
  | flowOut => "FlowOut"
  | dam => "dam"

/-- What a form of statement is called as a whole. -/
def title : Form → String
  | update => "river update"
  | form => form.subject ++ " declaration"

end Form

/-- What was expected where a text breaks the grammar. -/
inductive Expectation where
  | statement
  /-- The name that a form of statement declares. -/
  | name (form : Form)
  /-- The equals sign behind that name. -/
  | equals (form : Form)
  /-- The semicolon that ends a form of statement. -/
  | semicolon (form : Form)
  /-- The number of a capacity or of the days of outflow. -/
  | number
  | numberUnit
  | damCapacity
  | damUnit
  | damPercent
  | damPercentSign
  | operand
  | closing
  | days
  | daysClosing
  | rainUnit
  | seriesAmount
  | seriesClosing
  | seriesUnit
deriving DecidableEq, Repr

/-- How an expectation is worded. -/
def Expectation.message : Expectation → String
  | statement => "Expect declaration."
  | name form => s!"Expect {form.subject} name."
  | equals form => s!"Expect '=' after {form.subject} name."
  | semicolon form => s!"Expect ';' after {form.title}."
  | number => "Expect number after '='."
  | numberUnit => "Expect 'ML' after number."
  | damCapacity => "Expect capacity number."
  | damUnit => "Expect 'ML' after capacity."
  | damPercent => "Expect release percentage."
  | damPercentSign => "Expect '%' after release percentage."
  | operand => "Expect expression."
  | closing => "Expect ')' after expression."
  | days => "Expect number of days."
  | daysClosing => "Expect ')' after days."
  | rainUnit => "Expect 'mm' after rainfall."
  | seriesAmount => "Expect rainfall amount."
  | seriesClosing => "Expect ']' after rainfall array."
  | seriesUnit => "Expect 'mm' after rainfall array."

/-- A break of the grammar: what was expected, and the line and characters of the token found
instead, or the last line where the text ends. -/
structure SyntaxError where
  expected : Expectation
  line : Nat
  lexeme : Option String
deriving DecidableEq, Repr

/-- Why a row of tokens is not read to its end. -/
inductive ReadingError where
  /-- The grammar is broken. -/
  | grammar (error : SyntaxError)
  /-- A number of days has no whole part. -/
  | days (reason : Numeral.NoWholePart)
deriving DecidableEq, Repr

end Catchment
