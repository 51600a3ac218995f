import Catchment.Text.Quoted
import Catchment.Value

/-!
# `Catchment.Notice`: what is logged along the way

Much that happens while a program is read and run is of interest only to someone
who looks for it. Such a happening is a `Notice`. It has a level, the part of the
library it comes from, and a message.

* `Notice.level`, `Notice.origin`, `Notice.message`: how a notice is written down.
* `Log.Entry`: a notice as it stands in a log.
-/

set_option autoImplicit false

namespace Catchment

/-- How much a log entry matters. -/
inductive Log.Level where
  | debug | info | warning | error
deriving DecidableEq, Repr

/-- The name of a level. -/
def Log.Level.name : Log.Level → String
  | debug => "DEBUG"
  | info => "INFO"
  | warning => "WARNING"
  | error => "ERROR"

/-- The part of the library that an entry comes from. -/
inductive Log.Origin where
  | evaluator | simulation | runner | diagnostics
deriving DecidableEq, Repr

/-- The name under which a part of the library logs. -/
def Log.Origin.name : Log.Origin → String
  | evaluator => "riverflow.evaluator"
  | simulation => "riverflow.simulation"
  | runner => "riverflow.runner"
  | diagnostics => "riverflow.diagnostics"

/-- An entry of a log. -/
structure Log.Entry where
  level : Log.Level
  origin : Log.Origin
  message : String
deriving DecidableEq, Repr

/-- Something that happens along the way. -/
inductive Notice (α : Type) where
  | parsed (statements : Nat)
  | riverDeclared (name : String) (days : Nat)
  | damDeclared (name : String) (capacity release : α)
  | flowDeclared (name : String) (route : String)
  /-- An operator stands for nothing. -/
  | noValue (line : Int) (reason : NoValue)
  /-- A flow is given something that is no connection. -/
  | notAConnection (line : Int) (name : String) (got : Value.Noun)
  /-- A river is given something that is no rain. -/
  | noRain (line : Int) (name : String) (got : Value.Noun)
  | withoutCapacity (names : List String)
  | dayBegun (day last : Nat)
  /-- More was asked of rivers than they hold. -/
  | overdrawn (day : Int) (names : List String)
  /-- A diagnostic, as it is written. -/
  | diagnosed (severe : Bool) (text : String)

namespace Notice

variable {α : Type}

/-- How much a notice matters. -/
def level : Notice α → Log.Level
  | noValue .. | notAConnection .. | noRain .. => .warning
  | diagnosed severe _ => if severe then .error else .warning
  | parsed _ | riverDeclared .. | damDeclared .. | flowDeclared .. | withoutCapacity _
  | dayBegun .. | overdrawn .. => .debug

/-- The part of the library that a notice comes from. -/
def origin : Notice α → Log.Origin
  | parsed _ => .runner
  | riverDeclared .. | damDeclared .. | flowDeclared .. | noValue .. | notAConnection ..
  | noRain .. =>
    .evaluator
  | withoutCapacity _ | dayBegun .. | overdrawn .. => .simulation
  | diagnosed .. => .diagnostics

/-- The message of a notice. -/
def message [Amount α] : Notice α → String
  | parsed n => s!"parsed {n} statements"
  | riverDeclared name days => s!"declared river {name} ({days} days)"
  | damDeclared name capacity release =>
    let held := Amount.general capacity
    let kept := Amount.general release
    s!"declared dam {name} ({held}ML, release {kept}%)"
  | flowDeclared name route => s!"declared flow {name}: {route}"
  | noValue line reason => s!"line {line}: {reason.message}"
  | notAConnection line name got =>
    s!"line {line}: flow '{name}' is a {got.text}, not a connection; ignored"
  | noRain line name got => s!"line {line}: '{name}' assigned a {got.text}; rainfall unchanged"
  | withoutCapacity names => "missing capacity for " ++ quotedList names
  | dayBegun day last => s!"simulating day {day} of {last}"
  | overdrawn day names =>
    let rivers := quotedList names
    s!"day {day}: outflow from {rivers} scaled to available volume"
  | diagnosed _ text => text

/-- The entry that a notice makes in a log. -/
def entry [Amount α] (n : Notice α) : Log.Entry := ⟨n.level, n.origin, n.message⟩

end Notice

end Catchment
