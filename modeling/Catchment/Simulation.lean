import Catchment.Day.Outflow
import Catchment.Day.Rain
import Catchment.Day.Settlement
import Catchment.Day.Spill
import Catchment.Settings

/-!
# `Catchment.Simulation`: day after day

A day has four parts: rain falls, yesterday's water arrives, today's water leaves,
and dams come to one level with their rivers. On the first day nothing arrives,
and nothing leaves once the days of outflow are over. A run is one day after the
other, and a record is kept of what rivers hold and what dams let go.

* `Network.day`: one day of a network.
* `Simulation.step`: one day, with the record of it.
* `Simulation.run`: a whole run, from the announcement to the final report.
* `Simulation.finish`: the final report.
-/

set_option autoImplicit false

namespace Catchment

/-- What a day leaves behind. -/
structure DayOutcome (α : Type) where
  network : Network α
  /-- What each dam has let go. -/
  released : Table α
  events : List (Event α)
  notices : List (Notice α)

namespace Network

variable {α : Type} [Amount α]

/-- Nothing let go, for every dam. -/
def nothingReleased (n : Network α) : Table α := n.dams.map fun _ => 0

/-- Yesterday's water arrives, unless the day is the first. -/
def arrivalsOn (rule : StormRule α) (day : Int) (n : Network α) : DayOutcome α :=
  if 1 < day then
    let s := n.settlement rule day n.nothingReleased
    ⟨n.settle rule day n.nothingReleased, s.released, s.events, []⟩
  else ⟨n, n.nothingReleased, [], []⟩

/-- Today's water leaves, unless the days of outflow are over. -/
def outflowOn (share : α) (day : Int) (n : Network α) : DayOutcome α :=
  if day ≤ n.outflowDays then
    ⟨n.schedule share, ∅, n.scheduleEvents share day, n.scheduleNotices share day⟩
  else ⟨n, ∅, [], []⟩

/-- One day of a network: rain, arrivals, outflow, and the levels of the dams. -/
def day (rule : StormRule α) (share : α) (n : Network α) (day : Int) : DayOutcome α :=
  let arrived := (n.takeRain day).arrivalsOn rule day
  let left := arrived.network.outflowOn share day
  { network := left.network.level
    released := left.network.spilled arrived.released
    events := n.rainEvents day ++ arrived.events ++ left.events
    notices := left.notices }

end Network

/-- Why a run does not go on. -/
inductive SimulationError where
  /-- There are rivers for which no capacity is known. -/
  | withoutCapacity (names : List String)
  /-- There is a dam for which no record is kept, because it was declared too late. -/
  | unrecordedDam (name : String)
deriving DecidableEq, Repr

/-- What is found at the end of a run. -/
structure RunReport (α : Type) where
  outflowDays : Int
  lastDay : Int
  volumes : Table α
  damLevels : Table α
  /-- What every river held at the end of each day. -/
  history : List (Table α)
  /-- What every dam let go on each day. -/
  releases : Table (List α)
  /-- What is still under way. -/
  inTransit : α
  /-- The rivers that are close to their capacity, with the percentage they hold. -/
  warnings : Table α
  /-- The rivers that are over their capacity, with what they hold above the limit. -/
  overflows : Table α

/-- A simulation: how it is set up, and the record of it so far. -/
structure Simulation (α : Type) where
  storm : StormRule α
  limits : Limits α
  /-- The share of its volume that a river gives to a connection in a day. -/
  share : α
  history : List (Table α)
  releases : Table (List α)

/-- What a part of a simulation leaves behind, and what stopped it, if anything did. -/
structure Progress (α : Type) where
  network : Network α
  simulation : Simulation α
  events : List (Event α)
  notices : List (Notice α)
  error : Option SimulationError

/-- How much of its capacity a river holds. -/
inductive Fullness (α : Type) where
  | percent (p : α)
  /-- A river that can hold nothing holds something. -/
  | unbounded
deriving DecidableEq, Repr

namespace Fullness

variable {α : Type} [Amount α]

/-- How much of a capacity a volume is. -/
def of (volume capacity : α) : Fullness α :=
  if 0 < capacity then .percent (volume / capacity * 100)
  else if 0 < volume then .unbounded
  else .percent 0

/-- Whether a limit in percent is reached. -/
def reaches (limit : α) : Fullness α → Bool
  | percent p => decide (limit ≤ p)
  | unbounded => true

end Fullness

/-- What the final report says of a river. -/
inductive Finding (α : Type) where
  | nothing
  | near (percent : α)
  | beyond (excess : α)
deriving DecidableEq, Repr

namespace Finding

variable {α : Type} [Amount α]

/-- What is to be said of a volume, given a capacity. -/
def of (limits : Limits α) (volume : α) : Option α → Finding α
  | none => nothing
  | some capacity =>
    let fullness := Fullness.of volume capacity
    if fullness.reaches limits.overflowPercent then
      beyond (volume - capacity * limits.overflowPercent / 100)
    else
      match fullness with
      | .percent p => if limits.warningPercent ≤ p then near p else nothing
      | .unbounded => nothing

/-- The event that tells a finding. -/
def events (river : String) : Finding α → List (Event α)
  | nothing => []
  | near p => [.nearCapacity river p]
  | beyond excess => [.overCapacity river excess]

/-- The percentage of a finding, if the river is close to its capacity. -/
def near? : Finding α → Option α
  | near p => some p
  | nothing | beyond _ => none

/-- The excess of a finding, if the river is over its capacity. -/
def beyond? : Finding α → Option α
  | beyond excess => some excess
  | nothing | near _ => none

end Finding

namespace Network

variable {α : Type} [Amount α]

/-- What is to be said of a river at the end. -/
def finding (limits : Limits α) (n : Network α) (r : River α) : Finding α :=
  .of limits r.volume (n.capacities.get? r.name)

/-- What is told of a river at the end. -/
def finalEvents (limits : Limits α) (n : Network α) (r : River α) : List (Event α) :=
  .finalVolume r.name r.volume (n.capacities.get? r.name) :: (n.finding limits r).events r.name

/-- The rivers of which something is found, with what is found. -/
def findings (limits : Limits α) (n : Network α) (what : Finding α → Option α) : Table α :=
  .ofList (n.rivers.values.filterMap fun r =>
    (what (n.finding limits r)).map fun a => (r.name, a))

/-- What keeps a network from being run. -/
def obstacle? (n : Network α) : Option SimulationError :=
  match n.withoutCapacity with
  | [] => none
  | names => some (.withoutCapacity names)

/-- What is to be noticed about a network that cannot be run. -/
def obstacleNotices (n : Network α) : List (Notice α) :=
  match n.withoutCapacity with
  | [] => []
  | names => [.withoutCapacity names]

/-- What is under way in all connections together. -/
def inTransit (n : Network α) : α :=
  Amount.total (n.flows.map fun c => Amount.total c.waiting.values)

end Network

namespace Simulation

variable {α : Type} [Amount α]

/-- A simulation of a network, with nothing recorded yet. -/
def start (settings : Settings α) (share : α) (n : Network α) : Simulation α where
  storm := settings.storm
  limits := settings.limits
  share := share
  history := []
  releases := n.dams.map fun _ => []

/-- The record of what dams let go, with one more day, up to the first dam that has none. -/
def recordReleases (releases : Table (List α)) :
    List (String × α) → Table (List α) × Option SimulationError
  | [] => (releases, none)
  | (name, amount) :: rest =>
    match releases.get? name with
    | some amounts => recordReleases (releases.insert name (amounts ++ [amount])) rest
    | none => (releases, some (.unrecordedDam name))

/-- One day, with the record of it. What rivers hold is recorded last. -/
def step (s : Simulation α) (n : Network α) (day : Int) : Progress α :=
  let outcome := n.day s.storm s.share day
  let (releases, error) := recordReleases s.releases outcome.released.entries
  let recorded := { s with releases := releases }
  { network := outcome.network
    simulation :=
      match error with
      | none => { recorded with history := s.history ++ [outcome.network.volumes] }
      | some _ => recorded
    events := outcome.events
    notices := outcome.notices
    error := error }

/-- The days of a run from a day on, as many as are left of those up to the last. -/
def days (last : Nat) (s : Simulation α) (n : Network α) (day : Nat) : Nat → Progress α
  | 0 => ⟨n, s, [], [], none⟩
  | left + 1 =>
    let today := s.step n day
    let events := .dayBegun day :: today.events
    let notices := .dayBegun day last :: today.notices
    match today.error with
    | some _ => { today with events := events, notices := notices }
    | none =>
      let rest := days last today.simulation today.network (day + 1) left
      { rest with events := events ++ rest.events, notices := notices ++ rest.notices }

/-- What is told at the end of a run. -/
def finalEvents (s : Simulation α) (n : Network α) : List (Event α) :=
  n.rivers.values.flatMap (n.finalEvents s.limits)

/-- The final report of a run up to a last day. -/
def finish (s : Simulation α) (n : Network α) (lastDay : Int) : RunReport α where
  outflowDays := n.outflowDays
  lastDay := lastDay
  volumes := n.volumes
  damLevels := n.dams.map (·.level)
  history := s.history
  releases := s.releases
  inTransit := n.inTransit
  warnings := n.findings s.limits Finding.near?
  overflows := n.findings s.limits Finding.beyond?

/-- A whole run. All rivers need a capacity before anything happens. -/
def run (s : Simulation α) (n : Network α) : Progress α × Option (RunReport α) :=
  match n.obstacle? with
  | some e => (⟨n, s, [], n.obstacleNotices, some e⟩, none)
  | none =>
    let last := n.lastDay
    let body := s.days last n 1 last
    let events := n.announcement last :: body.events
    match body.error with
    | some _ => ({ body with events := events }, none)
    | none =>
      ({ body with events := events ++ body.simulation.finalEvents body.network },
        some (body.simulation.finish body.network last))

end Simulation

namespace RunReport

variable {α : Type}

/-- The history of the rivers that are there at the end, as one row a day. A river that was not
there on a day has no entry in its row. -/
def rows (r : RunReport α) : List (List (Option α)) :=
  r.history.map fun row => r.volumes.keys.map row.get?

end RunReport

end Catchment
