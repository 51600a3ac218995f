import Catchment.Proofs.Day.Outflow
import Catchment.Proofs.Day.Settlement
import Catchment.Proofs.Day.Spill

/-!
# `Catchment.Proofs.Day`: what one day keeps, and what it does to the water

The four parts of a day are put together. A day leaves the plan alone and leads
from rest to rest. In between, water moves from one place to another, and what
comes in is the rain of the day.

* `plan_day`: a day leaves the plan alone.
* `get?_released_day`: what a dam lets go on a day.
* `AtRest.atRest_day`: a day leads from rest to rest.
* `AtRest.water_day`: what there is after a day, with what was let go, is what there was before
  it, with the rain of the day.
-/

set_option autoImplicit false

namespace Catchment

namespace Network

section

variable {α : Type} [Amount α]

/-- The network when the outflow of a day begins: it has rained, and yesterday's water is
there. -/
def atOutflow (rule : StormRule α) (n : Network α) (day : Int) : Network α :=
  ((n.takeRain day).arrivalsOn rule day).network

/-- The network when the outflow of a day is over. -/
def atEvening (rule : StormRule α) (share : α) (n : Network α) (day : Int) : Network α :=
  ((n.atOutflow rule day).outflowOn share day).network

/-- What dams have let go of yesterday's water. -/
def releasedOn (rule : StormRule α) (n : Network α) (day : Int) : Table α :=
  ((n.takeRain day).arrivalsOn rule day).released

end

variable {rule : StormRule Rat} {share : Rat} {day : Int} {n : Network Rat}

/-! ### Arrivals, unless the day is the first -/

section

variable {α : Type} [Amount α] {rule : StormRule α} {n : Network α}

/-- The arrivals of a day change nothing that was declared. -/
theorem plan_arrivalsOn : (n.arrivalsOn rule day).network.plan = n.plan := by
  unfold arrivalsOn
  split
  · exact plan_settle rule day _ n
  · rfl

/-- What is let go is let go by the dams of the day before. -/
theorem keys_released_arrivalsOn : (n.arrivalsOn rule day).released.keys = n.dams.keys := by
  unfold arrivalsOn
  split
  · exact (keys_released_settlement rule day _ n).trans (Table.keys_map _ _)
  · exact Table.keys_map _ _

end

section

variable (hn : n.Sound) (hahead : n.RainAhead day)

include hn hahead

/-- The arrivals of a day keep the water sound. -/
theorem Sound.arrivalsOn : (n.arrivalsOn rule day).network.Sound := by
  unfold Network.arrivalsOn
  split
  · exact hn.settle hahead
  · exact hn

/-- No dam lets go less than nothing of what arrives. -/
theorem released_arrivalsOn_nonneg {name : String} {x : Rat}
    (hx : (n.arrivalsOn rule day).released.get? name = some x) : 0 ≤ x := by
  unfold arrivalsOn at hx
  split at hx
  · have hs : (n.settlement rule day n.nothingReleased).Steady day n :=
      steady_settlement hn hahead
    exact hs.released hx
  · exact (Settlement.steady_start hn hahead).released hx

/-- What was under way is in rivers now, or was let go, or is still under way. -/
theorem water_arrivalsOn (hall : n.All (0 ≤ ·)) :
    (n.arrivalsOn rule day).network.stored + (n.arrivalsOn rule day).network.inTransit
        + (n.arrivalsOn rule day).released.weigh (fun _ x => x)
      = n.stored + n.inTransit := by
  unfold arrivalsOn
  split
  · rw [inTransit_settle, add_zero]
    exact stored_settle hn hall hahead
  · rw [nothingReleased, Table.weigh_map]
    simp [Table.weigh]

end

/-! ### Outflow, unless the days of outflow are over -/

/-- The outflow of a day is told connection by connection, and nothing else is told meanwhile. -/
theorem mem_events_outflowOn {α : Type} [Amount α] {share : α} {n : Network α} {e : Event α}
    (he : e ∈ (n.outflowOn share day).events) :
    ∃ flow destination amount, e = .scheduled day flow destination amount := by
  unfold outflowOn at he
  split at he
  · obtain ⟨c, -, hc⟩ := List.mem_flatMap.mp he
    split at hc
    · obtain ⟨name, -, rfl⟩ := List.mem_map.mp hc
      exact ⟨_, _, _, rfl⟩
    · cases hc
  · cases he

section

variable {α : Type} [Amount α] {rule : StormRule α} {share : α} {n : Network α}

/-- The outflow of a day changes nothing that was declared, whether there is any or not. -/
theorem plan_outflowOn : (n.outflowOn share day).network.plan = n.plan := by
  unfold outflowOn
  split
  · exact plan_schedule share n
  · rfl

/-- The outflow leaves the dams as they are: what leaves, leaves their rivers. -/
theorem dams_outflowOn : (n.outflowOn share day).network.dams = n.dams := by
  unfold outflowOn
  split <;> rfl

/-- When the outflow begins, what was declared is as it was in the morning. -/
theorem plan_atOutflow : (n.atOutflow rule day).plan = n.plan :=
  plan_arrivalsOn.trans plan_takeRain

/-- When the outflow is over, what was declared is as it was in the morning. -/
theorem plan_atEvening : (n.atEvening rule share day).plan = n.plan :=
  plan_outflowOn.trans plan_atOutflow

/-- A day leaves the plan alone. -/
theorem plan_day : (n.day rule share day).network.plan = n.plan :=
  (plan_level _).trans plan_atEvening

/-- What was let go is recorded for the dams, and for nothing else. -/
theorem keys_releasedOn : (n.releasedOn rule day).keys = n.dams.keys := keys_released_arrivalsOn

/-- What is let go on a day is let go by the dams of the day before. -/
theorem keys_released_day : (n.day rule share day).released.keys = n.dams.keys :=
  (Table.keys_mapWithKey _ _).trans keys_releasedOn

/-- What a dam lets go on a day: what it does at the arrivals, and what spills in the end. -/
theorem get?_released_day (hwf : n.WellFormed) (name : String) :
    (n.day rule share day).released.get? name
      = ((n.releasedOn rule day).get? name).map fun x =>
          x + (n.atEvening rule share day).spillAt name
            ((((n.atEvening rule share day).rivers.get? name).map River.volume).getD 0) := by
  have hkeys : (n.releasedOn rule day).keys = (n.atEvening rule share day).dams.keys :=
    keys_releasedOn.trans (keys_dams_of_plan_eq plan_atEvening).symm
  show ((n.atEvening rule share day).spilled (n.releasedOn rule day)).get? name = _
  rw [spilled_eq (hwf.of_plan_eq plan_atEvening) hkeys, Table.get?_mapWithKey]

end

section

variable {K : Type} [Field K] [LinearOrder K] [IsStrictOrderedRing K] [Amount.Exact K]
  {n : Network K}

/-- No river holds less than nothing when the outflow begins, if none did in the morning. -/
theorem Nonneg.atOutflow (hn : n.Nonneg) (rule : StormRule K) :
    (n.atOutflow rule day).Nonneg := by
  unfold Network.atOutflow arrivalsOn
  split
  · exact (hn.takeRain day).settle rule day _
  · exact hn.takeRain day

/-- A day leaves no river with less than nothing. -/
theorem Nonneg.network_day (hn : n.Nonneg) (rule : StormRule K) (share : K) :
    (n.day rule share day).network.Nonneg := by
  have hevening : (n.atEvening rule share day).Nonneg := by
    unfold Network.atEvening outflowOn
    split
    · exact nonneg_schedule share _
    · exact hn.atOutflow rule
  exact hevening.level

end

/-- The outflow of a day keeps the water sound. -/
theorem Sound.outflowOn (hn : n.Sound) (hwf : n.WellFormed) :
    (n.outflowOn share day).network.Sound := by
  unfold Network.outflowOn
  split
  · exact hn.schedule hwf
  · exact hn

section

variable {name : String} {d : Dam Rat} {r : River Rat}

/-- The outflow of a day takes from a river, and at most what it holds. -/
theorem get?_rivers_outflowOn (share : Rat) (day : Int) (hv : n.volumes.Nonneg)
    (hr : n.rivers.get? name = some r) :
    ∃ v, 0 ≤ v ∧ v ≤ r.volume ∧
      (n.outflowOn share day).network.rivers.get? name = some { r with volume := v } := by
  have hget : n.volumes.get? name = some r.volume := get?_volumes_of hr
  unfold outflowOn
  split
  · refine ⟨Volumes.left (n.draws share) name r.volume, Volumes.left_nonneg _ _ _,
      Volumes.left_le (fair_draws hv) (hv hget), ?_⟩
    show (n.rivers.mapWithKey _).get? name = _
    rw [Table.get?_mapWithKey, hr]
    rfl
  · exact ⟨r.volume, hv hget, le_refl _, hr⟩

/-- The outflow only takes from a river, so if that fits into its dam nothing spills. -/
theorem get?_spilled_outflowOn (hv : n.volumes.Nonneg) (hd : n.dams.get? name = some d)
    (hr : n.rivers.get? name = some r) (hfits : r.volume ≤ d.capacity) (released : Table Rat) :
    ((n.outflowOn share day).network.spilled released).get? name = released.get? name := by
  obtain ⟨v, hv0, hvle, hevening⟩ := get?_rivers_outflowOn share day hv hr
  have hspill : d.spill v = 0 := Dam.spill_of_le hv0 (hvle.trans hfits)
  show (released.mapWithKey _).get? name = _
  rw [Table.get?_mapWithKey, dams_outflowOn, hd, hevening]
  show (released.get? name).map (fun amount => amount + d.spill v) = _
  rw [hspill]
  simp only [add_zero, Option.map_id']

end

/-- The outflow moves water from the rivers into the connections, and there is as much of it as
before. -/
theorem Sound.water_outflowOn (hn : n.Sound) :
    (n.outflowOn share day).network.stored + (n.outflowOn share day).network.inTransit
      = n.stored + n.inTransit := by
  unfold Network.outflowOn
  split
  · exact hn.stored_add_inTransit_schedule
  · rfl

/-! ### A whole day -/

/-- What is known of a day that begins at rest, when its outflow begins. -/
structure Midday (rule : StormRule Rat) (n : Network Rat) (day : Int) : Prop where
  plan : (n.atOutflow rule day).plan = n.plan
  sound : (n.atOutflow rule day).Sound
  keys_released : (n.releasedOn rule day).keys = n.dams.keys
  released : ∀ {name x}, (n.releasedOn rule day).get? name = some x → 0 ≤ x
  water : (n.atOutflow rule day).stored + (n.atOutflow rule day).inTransit
    + (n.releasedOn rule day).weigh (fun _ x => x) = n.stored + n.inTransit + n.rainfall day

/-- What is known of a day that begins at rest, when its outflow is over. -/
structure Evening (rule : StormRule Rat) (share : Rat) (n : Network Rat) (day : Int) : Prop where
  plan : (n.atEvening rule share day).plan = n.plan
  sound : (n.atEvening rule share day).Sound
  wellFormed : (n.atEvening rule share day).WellFormed
  keys_released : (n.releasedOn rule day).keys = (n.atEvening rule share day).dams.keys
  water : (n.atEvening rule share day).stored + (n.atEvening rule share day).inTransit
    + (n.releasedOn rule day).weigh (fun _ x => x) = n.stored + n.inTransit + n.rainfall day

/-- From rest, the rain and the arrivals of a day lead to what is known of midday. -/
theorem AtRest.midday (hn : n.AtRest) (hall : n.All (0 ≤ ·)) : n.Midday rule day := by
  have hsound : (n.takeRain day).Sound := hn.toSound.takeRain hall
  have hahead : (n.takeRain day).RainAhead day := hn.rainAhead hall
  have hrained : (n.takeRain day).All (0 ≤ ·) := hall.of_plan_eq plan_takeRain
  refine ⟨plan_atOutflow, hsound.arrivalsOn hahead, keys_releasedOn,
    released_arrivalsOn_nonneg hsound hahead, ?_⟩
  calc (n.atOutflow rule day).stored + (n.atOutflow rule day).inTransit
        + (n.releasedOn rule day).weigh (fun _ x => x)
      = (n.takeRain day).stored + n.inTransit := water_arrivalsOn hsound hahead hrained
    _ = n.stored + n.inTransit + n.rainfall day := by
      rw [stored_takeRain hall]
      ring

variable (hn : n.AtRest) (hwf : n.WellFormed) (hall : n.All (0 ≤ ·))

include hn hall hwf

/-- From rest, all that comes before the spilling leads to what is known of the evening. -/
theorem AtRest.evening : n.Evening rule share day := by
  have hmid : n.Midday rule day := hn.midday hall
  have hplan : (n.atEvening rule share day).plan = n.plan := plan_atEvening
  have hwf' : (n.atOutflow rule day).WellFormed := hwf.of_plan_eq hmid.plan
  -- The outflow neither makes nor takes water, so the balance is that of midday.
  refine ⟨hplan, hmid.sound.outflowOn hwf', hwf.of_plan_eq hplan, ?_, ?_⟩
  · rw [hmid.keys_released, keys_dams_of_plan_eq hplan]
  · rw [← hmid.water]
    congr 1
    exact hmid.sound.water_outflowOn

/-- A day that begins at rest ends at rest. -/
theorem AtRest.atRest_day : (n.day rule share day).network.AtRest := by
  have heve : n.Evening rule share day := hn.evening hwf hall
  exact heve.sound.atRest_level heve.wellFormed

/-- On a day that begins at rest, no dam lets go less than nothing: not of what arrives, and not
when it spills. -/
theorem AtRest.released_day_nonneg {name : String} {x : Rat}
    (hx : (n.day rule share day).released.get? name = some x) : 0 ≤ x := by
  have hmid : n.Midday rule day := hn.midday hall
  rw [get?_released_day hwf] at hx
  obtain ⟨y, hy, rfl⟩ := Option.map_eq_some_iff.mp hx
  exact add_nonneg (hmid.released hy) spillAt_nonneg

/-- What there is after a day, with what was let go, is what there was before it, with the rain of
the day. -/
theorem AtRest.water_day :
    (n.day rule share day).network.stored + (n.day rule share day).network.inTransit
        + (n.day rule share day).released.weigh (fun _ x => x)
      = n.stored + n.inTransit + n.rainfall day := by
  have heve : n.Evening rule share day := hn.evening hwf hall
  have hspill := heve.sound.stored_level_add_spilled heve.wellFormed heve.keys_released
  have hinTransit : (n.day rule share day).network.inTransit
      = (n.atEvening rule share day).inTransit := rfl
  rw [← heve.water, hinTransit]
  -- What spills leaves the rivers and is let go.
  calc (n.day rule share day).network.stored + (n.atEvening rule share day).inTransit
        + (n.day rule share day).released.weigh (fun _ x => x)
      = ((n.atEvening rule share day).level.stored
          + ((n.atEvening rule share day).spilled (n.releasedOn rule day)).weigh fun _ x => x)
          + (n.atEvening rule share day).inTransit := add_right_comm _ _ _
    _ = (n.atEvening rule share day).stored + (n.atEvening rule share day).inTransit
          + (n.releasedOn rule day).weigh (fun _ x => x) := by
      rw [hspill]
      ring

end Network

end Catchment
