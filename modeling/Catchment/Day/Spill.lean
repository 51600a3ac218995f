import Catchment.Network

/-!
# `Catchment.Day.Spill`: dams and their rivers come to one level

A dam and the river of its name hold the same water. At the end of a day both are
set to what the river holds, kept between nothing and the capacity of the dam.
What the river holds above that spills, and counts as let go.
-/

set_option autoImplicit false

namespace Catchment

variable {α : Type} [Amount α]

open Amount (larger smaller)

/-- The level that a dam comes to when its river holds a volume. -/
def Dam.levelAt (d : Dam α) (volume : α) : α := larger 0 (smaller d.capacity volume)

/-- What spills when the river of a dam holds a volume. -/
def Dam.spill (d : Dam α) (volume : α) : α := larger 0 (volume - d.levelAt volume)

namespace Network

/-- The network with every dam and its river at one level. -/
def level (n : Network α) : Network α :=
  { n with
    rivers := n.rivers.mapWithKey fun name r =>
      match n.dams.get? name with
      | some d => { r with volume := d.levelAt r.volume }
      | none => r
    dams := n.dams.mapWithKey fun name d =>
      match n.rivers.get? name with
      | some r => { d with level := d.levelAt r.volume }
      | none => d }

/-- What dams have let go, with what spills when they come to one level with their rivers. -/
def spilled (n : Network α) (released : Table α) : Table α :=
  released.mapWithKey fun name amount =>
    match n.dams.get? name, n.rivers.get? name with
    | some d, some r => amount + d.spill r.volume
    | _, _ => amount

end Network

end Catchment
