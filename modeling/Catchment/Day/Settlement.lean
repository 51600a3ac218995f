import Catchment.Event

/-!
# `Catchment.Day.Settlement`: yesterday's water arrives

What left its sources on the day before arrives, connection by connection and
destination by destination. A plain river takes it. A dam deals with each arrival
by its own law: the rain of the day counts with the first arrival of the day, and
what the dam lets go is recorded.

* `Settlement`: what has become of a network part of the way through.
* `Settlement.arrive`: what one arrival does.
* `Network.settle`: all arrivals of a day.
-/

set_option autoImplicit false

namespace Catchment

/-- What has become of a network part of the way through the arrivals of a day. -/
structure Settlement (α : Type) where
  rivers : Table (River α)
  dams : Table (Dam α)
  /-- What each dam has let go. -/
  released : Table α
  /-- The dams that have had their rain. -/
  operated : List String
  /-- What is told, in order. -/
  events : List (Event α)

namespace Settlement

variable {α : Type} [Amount α]

/-- Water arrives in a plain river. -/
def fillRiver (day : Int) (s : Settlement α) (r : River α) (name : String) (amount : α) :
    Settlement α :=
  let volume := r.volume + amount
  { s with
    rivers := s.rivers.modify name fun r => { r with volume := volume }
    events := s.events ++ [.arrived day name amount volume] }

/-- Water arrives at a dam. Its river is set to the new level of the dam. -/
def fillDam (rule : StormRule α) (day : Int) (s : Settlement α) (r : River α) (d : Dam α)
    (name : String) (amount : α) : Settlement α :=
  let rain := if name ∈ s.operated then 0 else r.rainOn day
  let release := d.release rule amount rain
  let after := d.settle rule amount rain
  { rivers := s.rivers.modify name fun r => { r with volume := after.level }
    dams := s.dams.insert name after
    released := s.released.modify name (· + release)
    operated := name :: s.operated
    events := s.events ++
      [.regulated day name amount rain release after.level after.levelPercent] }

/-- One arrival. Nothing, or less, does not arrive, and neither does what goes to no river. -/
def arrive (rule : StormRule α) (day : Int) (s : Settlement α) (arrival : String × α) :
    Settlement α :=
  let (name, amount) := arrival
  if amount ≤ 0 then s
  else
    match s.rivers.get? name, s.dams.get? name with
    | none, _ => s
    | some r, none => s.fillRiver day r name amount
    | some r, some d => s.fillDam rule day r d name amount

end Settlement

namespace Network

variable {α : Type} [Amount α]

/-- What waits to arrive, connection by connection. -/
def arrivals (n : Network α) : List (String × α) := n.flows.flatMap (·.waiting.entries)

/-- The arrivals of a day, on top of what dams have let go before. -/
def settlement (rule : StormRule α) (day : Int) (released : Table α) (n : Network α) :
    Settlement α :=
  n.arrivals.foldl (Settlement.arrive rule day) ⟨n.rivers, n.dams, released, [], []⟩

/-- The network after the arrivals of a day: nothing waits any more. -/
def settle (rule : StormRule α) (day : Int) (released : Table α) (n : Network α) : Network α :=
  let s := n.settlement rule day released
  { n with
    rivers := s.rivers
    dams := s.dams
    flows := n.flows.map fun c => { c with waiting := ∅ } }

end Network

end Catchment
