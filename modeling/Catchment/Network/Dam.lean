import Catchment.Amount

/-!
# `Catchment.Network.Dam`: what a dam keeps and what it lets go

A dam holds water up to its capacity and aims at a share of it, its target. What
arrives on a day is added to the level, and what would stand above the target is
let go. Heavy rain on a dam that is close to its target is met by an extra
release. In no case is more let go than there is, or less than what the dam
cannot hold.

* `Dam.levelPercent`: the level as a share of the capacity.
* `Dam.release`: what is let go of a day's water.
* `Dam.settle`: the dam after that day's water.
-/

set_option autoImplicit false

namespace Catchment

/-- A dam. -/
structure Dam (α : Type) where
  name : String
  capacity : α
  /-- The target, in percent of the capacity. -/
  targetPercent : α
  level : α
deriving DecidableEq, Repr

/-- What counts as heavy rain, and the share of a dam's capacity that heavy rain makes it let
go. -/
structure StormRule (α : Type) where
  heavyRain : α
  extraShare : α
deriving DecidableEq, Repr

namespace Dam

variable {α : Type} [Amount α]

open Amount (larger smaller)

/-- The level in percent of the capacity, and none where nothing can be held. -/
def levelPercent (d : Dam α) : α :=
  if d.capacity == 0 then 0 else d.level / d.capacity * 100

/-- The level at which a dam aims. -/
def target (d : Dam α) : α := d.capacity * d.targetPercent / 100

/-- The water of a dam with what arrives and what falls on it. -/
def available (d : Dam α) (inflow rain : α) : α := d.level + inflow + rain

/-- Whether a dam meets rain by an extra release: the rain is heavy and the level is less than
twenty percent below the target, or above it. -/
def bracesFor (d : Dam α) (rule : StormRule α) (rain : α) : Bool :=
  decide (rule.heavyRain < rain) && decide (d.targetPercent - 20 < d.levelPercent)

/-- What a dam would let go if it held any amount and could not run dry: what stands above the
target, and the extra release. -/
def wanted (d : Dam α) (rule : StormRule α) (inflow rain : α) : α :=
  let excess := larger 0 (d.available inflow rain - d.target)
  if d.bracesFor rule rain then excess + d.capacity * rule.extraShare else excess

/-- What a dam lets go: what it would, but no more than there is and no less than it cannot
hold. -/
def release (d : Dam α) (rule : StormRule α) (inflow rain : α) : α :=
  let available := d.available inflow rain
  let bounded := larger 0 (smaller (d.wanted rule inflow rain) available)
  if d.capacity < available - bounded then available - d.capacity else bounded

/-- The dam with water added and taken, its level kept between nothing and its capacity. -/
def fill (d : Dam α) (inflow outflow rain : α) : Dam α :=
  { d with level := larger 0 (smaller d.capacity (d.level + inflow + rain - outflow)) }

/-- The dam after a day's water, which lets go what `release` says. -/
def settle (d : Dam α) (rule : StormRule α) (inflow rain : α) : Dam α :=
  d.fill inflow (d.release rule inflow rain) rain

end Dam

end Catchment
