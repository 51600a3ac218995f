import Catchment.Network

/-!
# `Catchment.Event`: what happens in a run

A run is told as a list of events: what the network looks like at the start, what
each day brings, and what is found at the end.
-/

set_option autoImplicit false

namespace Catchment

/-- A river as it is announced at the start of a run. -/
structure RiverSummary (α : Type) where
  name : String
  totalRain : α
  capacity : Option α

/-- A dam as it is announced at the start of a run. -/
structure DamSummary (α : Type) where
  name : String
  capacity : α
  targetPercent : α

/-- Something that happens in a run. -/
inductive Event (α : Type) where
  | started (outflowDays lastDay : Int) (rivers : List (RiverSummary α))
      (dams : List (DamSummary α)) (routes : List String)
  | dayBegun (day : Int)
  /-- Rain falls on a river, which then holds a volume. -/
  | rained (day : Int) (river : String) (amount volume : α)
  /-- Water arrives in a river, which then holds a volume. -/
  | arrived (day : Int) (destination : String) (amount volume : α)
  /-- Water arrives at a dam, which lets some go and then stands at a level. -/
  | regulated (day : Int) (dam : String) (inflow rain release level levelPercent : α)
  /-- Water leaves for a destination. -/
  | scheduled (day : Int) (flow : Option String) (destination : String) (amount : α)
  | finalVolume (river : String) (volume : α) (capacity : Option α)
  /-- A river is close to what it can hold. -/
  | nearCapacity (river : String) (percent : α)
  /-- A river is at or above the limit of what it can hold. -/
  | overCapacity (river : String) (excess : α)

/-- A river as it is announced. -/
def Network.riverSummary {α : Type} [Amount α] (n : Network α) (r : River α) : RiverSummary α :=
  ⟨r.name, r.totalRain, n.capacities.get? r.name⟩

/-- A dam as it is announced. -/
def Dam.summary {α : Type} (d : Dam α) : DamSummary α := ⟨d.name, d.capacity, d.targetPercent⟩

/-- The announcement of a network that is run up to a last day. -/
def Network.announcement {α : Type} [Amount α] (n : Network α) (lastDay : Int) : Event α :=
  .started n.outflowDays lastDay (n.rivers.values.map n.riverSummary)
    (n.dams.values.map Dam.summary) (n.flows.map Connection.describe)

end Catchment
