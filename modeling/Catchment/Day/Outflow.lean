import Catchment.Event
import Catchment.Notice

/-!
# `Catchment.Day.Outflow`: today's water leaves

Every connection asks its sources for a fixed share of what they hold, once for
every time a source is named. All connections ask at the same time: they look at
the volumes as they stand when the outflow begins. A river that is asked for more
than it holds gives all it has, and every connection gets the same fraction of
what it asked for. What a connection gets is divided equally among its
destinations, where it arrives the next day.

* `Draw`: what a connection asks for.
* `Draw.asks`: what it asks of one river.
* `Volumes.given`: what it gets.
* `Network.schedule`: the network after the outflow.
-/

set_option autoImplicit false

namespace Catchment

/-- The volume of every river when the outflow begins. -/
abbrev Volumes (α : Type) := Table α

/-- What a connection asks for: its sources, what they hold together, and the share of that. -/
structure Draw (α : Type) where
  sources : List String
  held : α
  wanted : α

namespace Draw

variable {α : Type} [Amount α]

/-- What is asked of a river that holds a volume: its part of the whole, for every time it is a
source. -/
def asks (d : Draw α) (name : String) (volume : α) : α :=
  Amount.total (List.replicate (d.sources.count name) (volume / d.held * d.wanted))

end Draw

namespace Volumes

variable {α : Type} [Amount α]

/-- What a connection asks for, if it asks for anything: there must be some water in its sources
and somewhere to lead it. -/
def draw? (share : α) (volumes : Volumes α) (c : Connection α) : Option (Draw α) :=
  let held := Amount.batchTotal (c.sources.filterMap volumes.get?)
  let wanted := held * share
  if wanted ≤ 0 ∨ c.destinations = [] then none else some ⟨c.sources, held, wanted⟩

/-- All that is asked of a river. -/
def asked (draws : List (Draw α)) (name : String) (volume : α) : α :=
  Amount.total (draws.map (·.asks name volume))

/-- Whether a river is asked for more than it holds. -/
def overdrawn (draws : List (Draw α)) (name : String) (volume : α) : Bool :=
  decide (volume < asked draws name volume)

/-- The fraction that a river gives of what it is asked for. -/
def granted (draws : List (Draw α)) (name : String) (volume : α) : α :=
  if overdrawn draws name volume then volume / asked draws name volume else 1

/-- What is left in a river. Nothing left is nought, whatever its sign. -/
def left (draws : List (Draw α)) (name : String) (volume : α) : α :=
  let rest := volume - asked draws name volume * granted draws name volume
  if rest ≤ 0 then 0 else rest

/-- Every river with what it holds and the fraction it gives. -/
def grants (volumes : Volumes α) (draws : List (Draw α)) : List (String × α × α) :=
  volumes.entries.map fun (name, volume) => (name, volume, granted draws name volume)

/-- What a connection gets from all rivers together, given the fraction of each. -/
def given (grants : List (String × α × α)) (d : Draw α) : α :=
  Amount.batchTotal (grants.map fun (name, volume, fraction) => d.asks name volume * fraction)

end Volumes

namespace Connection

variable {α : Type} [Amount α]

/-- What each destination receives of an amount. -/
def portion (c : Connection α) (amount : α) : α := amount / (c.destinations.length : α)

/-- The connection with a portion more waiting for every time a destination is named. -/
def send (c : Connection α) (amount : α) : Connection α :=
  { c with
    waiting := c.destinations.foldl
      (fun w name => w.insert name ((w.get? name).getD 0 + c.portion amount)) c.waiting }

/-- What is told of an amount that leaves. -/
def sendEvents (c : Connection α) (day : Int) (amount : α) : List (Event α) :=
  c.destinations.map fun name => .scheduled day c.name name (c.portion amount)

end Connection

namespace Network

variable {α : Type} [Amount α]

/-- What every river holds. -/
def volumes (n : Network α) : Volumes α := n.rivers.map (·.volume)

/-- What the connections ask for. -/
def draws (share : α) (n : Network α) : List (Draw α) := n.flows.filterMap (n.volumes.draw? share)

/-- Every river with what it holds and the fraction it gives. -/
def grants (share : α) (n : Network α) : List (String × α × α) :=
  n.volumes.grants (n.draws share)

/-- What a connection gets, if it asks for anything, given the fraction of each river. -/
def given? (share : α) (n : Network α) (grants : List (String × α × α)) (c : Connection α) :
    Option α :=
  (n.volumes.draw? share c).map (Volumes.given grants)

/-- The network after the outflow of a day. -/
def schedule (share : α) (n : Network α) : Network α :=
  let draws := n.draws share
  let grants := n.grants share
  { n with
    rivers := n.rivers.mapWithKey fun name r =>
      { r with volume := Volumes.left draws name r.volume }
    flows := n.flows.map fun c =>
      match n.given? share grants c with
      | some amount => c.send amount
      | none => c }

/-- What is told of the outflow of a day. -/
def scheduleEvents (share : α) (day : Int) (n : Network α) : List (Event α) :=
  let grants := n.grants share
  n.flows.flatMap fun c =>
    match n.given? share grants c with
    | some amount => c.sendEvents day amount
    | none => []

/-- The rivers that are asked for more than they hold. -/
def overdrawn (share : α) (n : Network α) : List String :=
  let draws := n.draws share
  (n.volumes.entries.filter fun (name, volume) => Volumes.overdrawn draws name volume).map (·.1)

/-- What is to be noticed about the outflow of a day. -/
def scheduleNotices (share : α) (day : Int) (n : Network α) : List (Notice α) :=
  match n.overdrawn share with
  | [] => []
  | names => [.overdrawn day names]

end Network

end Catchment
