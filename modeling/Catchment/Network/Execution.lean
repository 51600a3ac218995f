import Catchment.Evaluation

/-!
# `Catchment.Network.Execution`: what statements do to a network

Statements are executed one after the other, and each builds on what the ones
before it declared. The first that goes wrong ends the execution, and the network
stays as it was built up to there.

* `Network.declare`: what one statement does.
* `Network.execute`: what a list of statements does.
-/

set_option autoImplicit false

namespace Catchment

/-- The outcome of executing statements: the network they leave, what is to be noticed, and what
went wrong, if anything did. -/
structure Execution (α : Type) where
  network : Network α
  notices : List (Notice α)
  error : Option (EvaluationError α)

namespace River

variable {α : Type} [Amount α]

/-- The river with the rain that a value stands for, if it stands for rain. -/
def receive (r : River α) : Value α → Except RainError (River α)
  | .rain amount days => r.addRain amount days
  | .series amounts => .ok (r.addSeries amounts)
  | .number _ | .river _ | .rivers _ | .flow _ | .nothing _ => .ok r

/-- The notice about a value that is given to a river and is no rain. -/
def rainNotice (name : String) (line : Int) : Value α → List (Notice α)
  | .rain .. | .series _ => []
  | v => [.noRain line name v.noun]

end River

namespace Network

variable {α : Type} [Amount α]

/-- The network with further connections. -/
def addFlows (n : Network α) (flows : List (Connection α)) : Network α :=
  { n with flows := n.flows ++ flows }

/-- Evaluates an expression, lays its legs, and goes on with its value. -/
def withValue (n : Network α) (e : Expr α) (go : Network α → Value α → Execution α) :
    Execution α :=
  let evaluation := e.evaluate n.rivers.contains
  let laid := n.addFlows evaluation.legs
  match evaluation.result with
  | .error error => ⟨laid, evaluation.notices, some error⟩
  | .ok v =>
    let rest := go laid v
    { rest with notices := evaluation.notices ++ rest.notices }

/-- A new river. An earlier one of that name gives way. -/
def declareRiver (n : Network α) (name : String) (line : Int) (v : Value α) : Execution α :=
  match (River.dry name).receive v with
  | .error reason => ⟨n, [], some (.rainTooLong reason)⟩
  | .ok river =>
    { network := { n with rivers := n.rivers.insert name river }
      notices := River.rainNotice name line v ++ [.riverDeclared name river.rain.length]
      error := none }

/-- More rain for a river that is declared. -/
def updateRiver (n : Network α) (river : River α) (name : String) (line : Int) (v : Value α) :
    Execution α :=
  match river.receive v with
  | .error reason => ⟨n, [], some (.rainTooLong reason)⟩
  | .ok river =>
    { network := { n with rivers := n.rivers.insert name river }
      notices := River.rainNotice name line v
      error := none }

/-- A named connection. Anything else is left aside. -/
def declareFlow (n : Network α) (name : String) (line : Int) : Value α → Execution α
  | .flow c =>
    let named := { c with name := some name }
    ⟨n.addFlows [named], [.flowDeclared name named.describe], none⟩
  | v => ⟨n, [.notAConnection line name v.noun], none⟩

/-- For how many days water flows out. -/
def declareOutflow (n : Network α) (name : String) (line : Int) (days : α) : Execution α :=
  match Amount.truncate days with
  | .error reason => ⟨n, [], some (.outflowNotWhole reason)⟩
  | .ok whole =>
    if whole < shortestOutflow then ⟨n, [], some (.outflowTooShort whole name line)⟩
    else ⟨{ n with outflowDays := whole.toNat, outflowDeclared := true }, [], none⟩

/-- A dam, and the river it stands in, which has no rain on the days of outflow. The dam is there
even if these are too many for its river. -/
def declareDam (n : Network α) (name : String) (line : Int) (capacity release : α) :
    Execution α :=
  if 0 ≤ release ∧ release ≤ 100 then
    let dammed := { n with dams := n.dams.insert name ⟨name, capacity, release, 0⟩ }
    match (River.dry name).addRain 0 n.outflowDays with
    | .error reason => ⟨dammed, [], some (.rainTooLong reason)⟩
    | .ok river =>
      { network := { dammed with rivers := n.rivers.insert name river }
        notices := [.damDeclared name capacity release]
        error := none }
  else ⟨n, [], some (.releaseOutOfRange release name line)⟩

/-- What a statement does. An update asks first whether its river is declared. -/
def declare (n : Network α) (s : Statement α) : Execution α :=
  match s.declares with
  | .river e => n.withValue e fun n v => n.declareRiver s.name s.line v
  | .update e =>
    match n.rivers.get? s.name with
    | some river => n.withValue e fun n v => n.updateRiver river s.name s.line v
    | none => ⟨n, [], some (.undeclaredRiver s.name s.line)⟩
  | .flow e => n.withValue e fun n v => n.declareFlow s.name s.line v
  | .capacity volume => ⟨{ n with capacities := n.capacities.insert s.name volume }, [], none⟩
  | .flowOut days => n.declareOutflow s.name s.line days
  | .dam capacity release => n.declareDam s.name s.line capacity release

/-- What statements do, one after the other, up to the first that goes wrong. -/
def execute (n : Network α) : List (Statement α) → Execution α
  | [] => ⟨n, [], none⟩
  | s :: rest =>
    let first := n.declare s
    match first.error with
    | some _ => first
    | none =>
      let others := first.network.execute rest
      { others with notices := first.notices ++ others.notices }

end Network

end Catchment
