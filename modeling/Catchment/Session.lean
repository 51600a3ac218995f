import Catchment.Run

/-!
# `Catchment.Session`: a network worked on step by step

In a session a network is built, changed and simulated step by step. Statements
are executed on it, single values are set, and a simulation runs whole or one part
of a day at a time. A step that goes wrong leaves what it did before that, and the
session goes on.

* `Session.Command`: what can be asked for.
* `Session.step`: what a command does, and its reply.
-/

set_option autoImplicit false

namespace Catchment

/-- A session: a network, the simulation of it that is set up, and the report of the last run. -/
structure Session where
  network : Network Float
  simulation : Option (Simulation Float)
  report : Option (RunReport Float)

namespace Session

/-- A session in which nothing has been done. -/
def start : Session := ⟨.empty, none, none⟩

/-- What can be asked for. -/
inductive Command where
  /-- Executes the statements of a text. -/
  | execute (text : String)
  /-- Evaluates the expression at the front of a text. -/
  | evaluate (text : String)
  | setTarget (dam : String) (percent : Float)
  | setVolume (river : String) (volume : Float)
  | setLevel (dam : String) (level : Float)
  /-- Sets what waits in a connection, counted from nought, or from the end below nought. -/
  | setWaiting (index : Int) (waiting : List (String × Float))
  | dropRiver (river : String)
  | addFlow (name : Option String) (sources destinations : List String)
  | query (name : String)
  /-- Sets up a simulation. -/
  | simulate (settings : List (String × Datum))
  | validate
  | day (day : Int)
  | rain (day : Int)
  | arrivals (day : Int)
  | outflow (day : Int)
  | level
  | run
  | finish (lastDay : Int)
  | frame

/-- What a command is answered with. -/
inductive Reply where
  | done
  | value (v : Value Float)
  /-- What is asked about a name: whether it is a dam, what it can hold, which rivers have no
  capacity, and how many days a run takes. -/
  | facts (isDam : Bool) (capacity : Option Float) (withoutCapacity : List String) (lastDay : Nat)
  | share (share : Float)
  /-- What rivers hold at the end of the last day, and what dams have let go so far. -/
  | record (volumes : Table Float) (releases : Table (List Float))
  | released (released : Table Float)
  | report (report : RunReport Float)
  /-- The report whose history is asked for. -/
  | frame (report : RunReport Float)

/-- What a step leaves behind. -/
structure Outcome where
  session : Session
  events : List (Event Float)
  notices : List (Notice Float)
  reply : Except Problem Reply

variable (s : Session)

/-- A step that changes nothing. -/
def answer (reply : Except Problem Reply) : Outcome := ⟨s, [], [], reply⟩

/-- A step that leaves a network. -/
def leave (n : Network Float) (events : List (Event Float)) (notices : List (Notice Float))
    (reply : Except Problem Reply) : Outcome :=
  ⟨{ s with network := n }, events, notices, reply⟩

/-- A step that sets something. -/
def put (n : Network Float) : Outcome := s.leave n [] [] (.ok .done)

/-- The execution of the statements of a text. -/
def execute (text : String) : Outcome :=
  match Program.read "" text with
  | .error p => s.answer (.error p)
  | .ok program =>
    let e := s.network.execute program.statements
    let reply := match e.error with
      | none => .ok .done
      | some error => .error (.statement error)
    s.leave e.network [] e.notices reply

/-- The evaluation of the expression at the front of a text. -/
def evaluate (text : String) : Outcome :=
  match Expr.read text with
  | .error p => s.answer (.error p)
  | .ok (e, _) =>
    let evaluation := e.evaluate s.network.rivers.contains
    let reply := match evaluation.result with
      | .ok v => .ok (.value v)
      | .error error => .error (.statement error)
    s.leave (s.network.addFlows evaluation.legs) [] evaluation.notices reply

/-- A change of a river, if there is one of that name. -/
def changeRiver (name : String) (change : River Float → River Float) : Outcome :=
  if s.network.rivers.contains name then
    s.put { s.network with rivers := s.network.rivers.modify name change }
  else s.answer (.error (.unknown name))

/-- A change of a dam, if there is one of that name. -/
def changeDam (name : String) (change : Dam Float → Dam Float) : Outcome :=
  if s.network.dams.contains name then
    s.put { s.network with dams := s.network.dams.modify name change }
  else s.answer (.error (.unknown name))

/-- A change of what waits in a connection, if there is one at that place. -/
def setWaiting (index : Int) (waiting : List (String × Float)) : Outcome :=
  let flows := s.network.flows
  let place := if index < 0 then index + flows.length else index
  if 0 ≤ place ∧ place < flows.length then
    s.put { s.network with
      flows := flows.modify place.toNat fun c => { c with waiting := Table.ofList waiting } }
  else s.answer (.error .outOfRange)

/-- A request to the simulation that is set up. -/
def withSimulation (request : Request) (go : Simulation Float → Outcome) : Outcome :=
  match s.simulation with
  | some simulation => go simulation
  | none => s.answer (.error (.missing request))

/-- A simulation set up with some settings. -/
def setUp (settings : List (String × Datum)) : Outcome :=
  match Settings.ofValues settings with
  | .error complaints => s.answer (.error (.settings complaints))
  | .ok settings =>
    match dailyShare s.network.outflowDays with
    | .error reason => s.answer (.error (.share reason))
    | .ok share =>
      { session := { s with simulation := some (.start settings share s.network) }
        events := []
        notices := []
        reply := .ok (.share share) }

/-- What a part of a simulation leaves of a session. -/
def advance (p : Progress Float) (report : Option (RunReport Float)) (reply : Reply) : Outcome :=
  { session := ⟨p.network, some p.simulation, report.or s.report⟩
    events := p.events
    notices := p.notices
    reply := match p.error with
      | none => .ok reply
      | some e => .error (.simulation e) }

/-- One day of the simulation. -/
def oneDay (day : Int) (simulation : Simulation Float) : Outcome :=
  let p := simulation.step s.network day
  s.advance p none (.record (p.simulation.history.getLast?.getD ∅) p.simulation.releases)

/-- A whole run of the simulation. -/
def wholeRun (simulation : Simulation Float) : Outcome :=
  match simulation.run s.network with
  | (p, some report) => s.advance p (some report) (.report report)
  | (p, none) => s.advance p none .done

/-- The final report, without a day before it. -/
def final (lastDay : Int) (simulation : Simulation Float) : Outcome :=
  let report := simulation.finish s.network lastDay
  { session := { s with report := some report }
    events := simulation.finalEvents s.network
    notices := []
    reply := .ok (.report report) }

/-- What a command does. -/
def step : Command → Outcome
  | .execute text => s.execute text
  | .evaluate text => s.evaluate text
  | .setTarget dam percent => s.changeDam dam fun d => { d with targetPercent := percent }
  | .setVolume river volume => s.changeRiver river fun r => { r with volume := volume }
  | .setLevel dam level => s.changeDam dam fun d => { d with level := level }
  | .setWaiting index waiting => s.setWaiting index waiting
  | .dropRiver river =>
    if s.network.rivers.contains river then
      s.put { s.network with rivers := s.network.rivers.erase river }
    else s.answer (.error (.unknown river))
  | .addFlow name sources destinations =>
    s.put (s.network.addFlows [{ Connection.leg sources destinations with name := name }])
  | .query name =>
    s.answer (.ok (.facts (s.network.dams.contains name) (s.network.capacityOf name)
      s.network.withoutCapacity s.network.lastDay))
  | .simulate settings => s.setUp settings
  | .validate =>
    s.withSimulation .validate fun _ =>
      s.leave s.network [] s.network.obstacleNotices <|
        match s.network.obstacle? with
        | none => .ok .done
        | some e => .error (.simulation e)
  | .day day => s.withSimulation .day (s.oneDay day)
  | .rain day =>
    s.withSimulation .rain fun _ =>
      s.leave (s.network.takeRain day) (s.network.rainEvents day) [] (.ok .done)
  | .arrivals day =>
    s.withSimulation .arrivals fun simulation =>
      let released := s.network.nothingReleased
      let settlement := s.network.settlement simulation.storm day released
      s.leave (s.network.settle simulation.storm day released) settlement.events []
        (.ok (.released settlement.released))
  | .outflow day =>
    s.withSimulation .outflow fun simulation =>
      s.leave (s.network.schedule simulation.share)
        (s.network.scheduleEvents simulation.share day)
        (s.network.scheduleNotices simulation.share day) (.ok .done)
  | .level =>
    s.withSimulation .level fun _ =>
      s.leave s.network.level [] []
        (.ok (.released (s.network.spilled s.network.nothingReleased)))
  | .run => s.withSimulation .run s.wholeRun
  | .finish lastDay => s.withSimulation .finish (s.final lastDay)
  | .frame =>
    s.answer <|
      match s.report with
      | some report => .ok (.frame report)
      | none => .error (.missing .frame)

/-- What a list of commands does, command by command. -/
def steps (s : Session) : List Command → List Outcome
  | [] => []
  | c :: cs =>
    let outcome := s.step c
    outcome :: outcome.session.steps cs

end Session

end Catchment
