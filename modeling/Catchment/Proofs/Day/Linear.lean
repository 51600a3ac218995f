import Mathlib.Algebra.BigOperators.Fin
import Catchment.Proofs.Day
import Catchment.Proofs.Day.Regulation
import Catchment.Proofs.Day.Yield

/-!
# `Catchment.Proofs.Day.Linear`: a day of a network without dams

Without dams a day only moves water about, and every place gets fixed parts of what the
others hold. The parts are told from the plan: how much of a river leaves in a day, and to
which connection, depends on how often it is asked, not on how much water there is. That a
dry connection is passed over, that a day without rain is, and that rivers which are asked
for too much give less, is all in agreement with that.

* `Network.volumeOf`, `Network.waitingAt`, `Network.rainOf`: the water of a network, place by
  place.
* `Network.conveyed`: the part of a river that leaves for a name by one of the connections.
* `Network.Undammed`: a network without dams in which nothing is below nought.
* `Undammed.volumeOf_day`, `Undammed.waitingAt_day`: the water after a day.
-/

set_option autoImplicit false

namespace Catchment

/-- Nothing is left out of a sum when only what is above nought is added up. -/
theorem sum_filter_pos {xs : List Rat} (h : ∀ x ∈ xs, 0 ≤ x) :
    (xs.filter fun x => 0 < x).sum = xs.sum := by
  have hsum : (xs.map id).sum = ((xs.filter fun x => 0 < x).map id).sum :=
    sum_map_filter (fun _ _ _ => rfl) fun x hx hout =>
      le_antisymm (not_lt.mp (of_decide_eq_false hout)) (h x hx)
  rw [List.map_id, List.map_id] at hsum
  exact hsum.symm

/-- What comes to a name from a table is its entry, if it has one. -/
theorem sum_amountsTo_entries (waiting : Table Rat) (name : String) :
    (amountsTo name waiting.entries).sum = (waiting.get? name).getD 0 := by
  cases h : waiting.get? name with
  | some x => simp [amountsTo_entries h]
  | none =>
    have hnone : amountsTo name waiting.entries = [] := by
      refine List.eq_nil_iff_forall_not_mem.mpr fun x hx => ?_
      rw [mem_amountsTo, Table.mem_entries, h] at hx
      cases hx
    simp [hnone]

/-- No less than nothing waits in a connection. -/
def Connection.Nonneg (c : Connection Rat) : Prop :=
  ∀ ⦃name x⦄, c.waiting.get? name = some x → 0 ≤ x

namespace Network

/-- What a river holds. Where there is no river, there is nothing. -/
def volumeOf (n : Network Rat) (name : String) : Rat := (n.volumes.get? name).getD 0

/-- What waits for a name in one of the connections, which is given by its place. -/
def waitingAt (n : Network Rat) (i : Nat) (name : String) : Rat :=
  ((n.flows[i]?).bind fun c => c.waiting.get? name).getD 0

/-- The rain of a day on a river. -/
def rainOf (n : Network Rat) (day : Int) (name : String) : Rat :=
  ((n.rivers.get? name).map (·.rainOn day)).getD 0

/-- The part of a river that leaves for a name in a day, by one of the connections. -/
def conveyed (share : Rat) (n : Network Rat) (i : Nat) (source name : String) : Rat :=
  ((n.flows[i]?).map fun c => c.destinations.count name *
    (c.sources.count source * n.yield share source / c.destinations.length)).getD 0

/-- A network without dams. Rain, what rivers hold, and what waits is not below nought. -/
structure Undammed (n : Network Rat) : Prop where
  dams : n.dams.keys = []
  rain : ∀ {name r}, n.rivers.get? name = some r → ∀ x ∈ r.rain, 0 ≤ x
  volume : n.Nonneg
  waiting : ∀ c ∈ n.flows, c.Nonneg

variable {rule : StormRule Rat} {share : Rat} {day : Int} {n m : Network Rat} {name : String}
  {r : River Rat}

/-- The water in the place of a river is what the river holds. -/
theorem volumeOf_eq (hr : n.rivers.get? name = some r) : n.volumeOf name = r.volume := by
  rw [volumeOf, get?_volumes, hr]
  rfl

/-- The rain in the place of a river is the rain on the river. -/
theorem rainOf_eq (hr : n.rivers.get? name = some r) : n.rainOf day name = r.rainOn day := by
  rw [rainOf, hr]
  rfl

/-- The rain on a river is declared, so no water changes it. -/
theorem rainOf_of_plan_eq (h : m.plan = n.plan) (day : Int) (name : String) :
    m.rainOf day name = n.rainOf day name := by
  have hplan : ∀ p : Network Rat, p.plan.rainOf day name = p.rainOf day name := by
    intro p
    rw [rainOf, get?_rivers_plan, Option.map_map]
    rfl
  rw [← hplan m, h, hplan n]

/-- How often a river is asked is told from the connections of the plan. -/
theorem timesAsked_of_flows_eq (h : m.plan.flows = n.plan.flows) (name : String) :
    m.timesAsked name = n.timesAsked name := by
  have hplan : ∀ p : Network Rat, p.timesAsked name
      = ((p.plan.flows.filter (·.destinations ≠ [])).map (·.sources.count name)).sum := by
    intro p
    simp only [timesAsked, plan, List.filter_map, List.map_map]
    rfl
  rw [hplan m, h, ← hplan n]

/-- The part of a river that a connection takes along goes by the connections alone, and not by
what waits in them. -/
theorem conveyed_of_flows_eq (h : m.plan.flows = n.plan.flows) (i : Nat) (source name : String) :
    m.conveyed share i source name = n.conveyed share i source name := by
  have hplan : ∀ p : Network Rat, p.conveyed share i source name
      = ((p.plan.flows[i]?).map fun c => c.destinations.count name *
          (c.sources.count source * p.yield share source / c.destinations.length)).getD 0 := by
    intro p
    rw [plan, List.getElem?_map, Option.map_map]
    rfl
  rw [hplan m, hplan n, h, yield, timesAsked_of_flows_eq h, yield]

/-! ### Arrivals -/

/-- What comes in at a name is what waits for it. -/
theorem sum_inflows (h : ∀ c ∈ n.flows, c.Nonneg) (name : String) :
    (inflows name n.arrivals).sum = ∑ i ∈ Finset.range n.flows.length, n.waitingAt i name := by
  have hnonneg : ∀ x ∈ amountsTo name n.arrivals, 0 ≤ x := by
    intro x hx
    obtain ⟨c, hc, hmem⟩ := List.mem_flatMap.mp (mem_amountsTo.mp hx)
    exact h c hc ((Table.mem_entries _ _ _).mp hmem)
  have hamounts : (amountsTo name n.arrivals).sum
      = (n.flows.map fun c => (c.waiting.get? name).getD 0).sum := by
    rw [arrivals]
    -- The induction is on the connections.
    induction n.flows with
    | nil => rfl
    | cons c flows ih =>
      rw [List.flatMap_cons, amountsTo_append, List.sum_append, ih, sum_amountsTo_entries,
        List.map_cons, List.sum_cons]
  rw [inflows, sum_filter_pos hnonneg, hamounts, Finset.sum_range (fun i => n.waitingAt i name),
    ← Fin.sum_univ_fun_getElem]
  refine Finset.sum_congr rfl fun i _ => ?_
  rw [waitingAt, List.getElem?_eq_getElem i.isLt]
  rfl

/-- No name has a dam in a network without dams. -/
theorem Undammed.get?_dams (hn : n.Undammed) (name : String) : n.dams.get? name = none := by
  rw [Table.get?_eq_none_iff, hn.dams]
  exact List.not_mem_nil

/-- When the outflow begins, a river holds the rain of the day as well, and what has waited for
it. -/
theorem Undammed.volumeOf_atOutflow (hn : n.Undammed) (hname : name ∈ n.rivers.keys) :
    (n.atOutflow rule day).volumeOf name = n.volumeOf name + n.rainOf day name
      + if 1 < day then ∑ i ∈ Finset.range n.flows.length, n.waitingAt i name else 0 := by
  obtain ⟨r, hr⟩ := (n.rivers.mem_keys name).mp hname
  have hrained : (n.takeRain day).rivers.get? name = some (r.takeRain day) :=
    get?_rivers_takeRain hr
  have hvolume : (r.takeRain day).volume = r.volume + r.rainOn day :=
    River.volume_takeRain (River.rainOn_nonneg (hn.rain hr))
  rw [volumeOf_eq hr, rainOf_eq hr, ← hvolume]
  unfold atOutflow arrivalsOn
  split
  · have harrived :
        ((n.takeRain day).settle rule day (n.takeRain day).nothingReleased).rivers.get? name
        = some { r.takeRain day with
            volume := (r.takeRain day).volume + (inflows name n.arrivals).sum } :=
      get?_rivers_settlement_of_plain hrained (hn.get?_dams name)
    rw [volumeOf_eq harrived, sum_inflows hn.waiting]
  · rw [volumeOf_eq hrained, add_zero]

/-- When the outflow begins, nothing waits any more, unless the day is the first. -/
theorem waitingAt_atOutflow (i : Nat) (name : String) :
    (n.atOutflow rule day).waitingAt i name = if 1 < day then 0 else n.waitingAt i name := by
  unfold atOutflow arrivalsOn
  split
  · show (((n.flows.map _)[i]?).bind _).getD 0 = 0
    rw [List.getElem?_map]
    cases n.flows[i]? <;> rfl
  · rfl

/-- When the outflow begins, no less than nothing waits in a connection: what waited has
arrived. -/
theorem Undammed.nonneg_flows_atOutflow (hn : n.Undammed) :
    ∀ c ∈ (n.atOutflow rule day).flows, c.Nonneg := by
  unfold atOutflow arrivalsOn
  split
  · intro c hc name x hx
    obtain ⟨c', -, rfl⟩ := List.mem_map.mp hc
    cases hx
  · exact hn.waiting

/-! ### Outflow -/

/-- What a connection gets is the sum over the rivers of what each gives, for every time it is a
source. -/
theorem gets_eq_sum (n : Network Rat) (c : Connection Rat) :
    n.gets share c = (n.rivers.keys.map fun source =>
      c.sources.count source * (n.volumeOf source * n.yield share source)).sum := by
  have hvolumes : n.gets share c = n.volumes.weigh fun source _ =>
      c.sources.count source * (n.volumeOf source * n.yield share source) := by
    refine Table.weigh_congr fun source volume hget => ?_
    rw [volumeOf, hget, Option.getD_some]
  rw [hvolumes, ← Table.keys_map River.volume]
  simp only [Table.weigh, Table.keys, Entries.keys, List.map_map]
  rfl

/-- No connection gets less than nothing. -/
theorem gets_nonneg (hn : n.Nonneg) (hshare : 0 < share) (c : Connection Rat) :
    0 ≤ n.gets share c := by
  refine sum_map_nonneg fun e he => ?_
  have hvolume : 0 ≤ e.2 := nonneg_volumes_iff.mpr hn ((n.volumes.mem_entries e.1 e.2).mp he)
  have hyield : 0 ≤ n.yield share e.1 := le_min hshare.le (by positivity)
  positivity

/-- What waits for a name in a connection after the outflow: the portions that are led there are
new. -/
theorem getD_waiting_carry (hn : n.Nonneg) (hshare : 0 < share) {c : Connection Rat}
    (hc : c ∈ n.flows) (name : String) :
    ((n.carry share c).waiting.get? name).getD 0 = (c.waiting.get? name).getD 0
      + c.destinations.count name * (n.gets share c / c.destinations.length) := by
  have hsent := sent?_eq (nonneg_volumes_iff.mpr hn) hshare hc
  unfold carry
  by_cases hnothing : n.gets share c = 0 ∨ c.destinations = []
  · rw [hsent, if_pos hnothing]
    rcases hnothing with hzero | hnowhere
    · simp [hzero]
    · simp [hnowhere]
  · rw [hsent, if_neg hnothing]
    show ((c.send (n.gets share c)).waiting.get? name).getD 0 = _
    rw [Connection.get?_waiting_send]
    by_cases hname : name ∈ c.destinations
    · rw [if_pos hname]
      rfl
    · rw [if_neg hname, List.count_eq_zero_of_not_mem hname]
      simp

/-- What a river keeps at the outflow is a fixed part of what it holds. -/
theorem volumeOf_outflowOn (hn : n.Nonneg) (hshare : 0 < share) (hname : name ∈ n.rivers.keys) :
    (n.outflowOn share day).network.volumeOf name = n.volumeOf name
      * if day ≤ n.outflowDays then max (1 - n.timesAsked name * share) 0 else 1 := by
  obtain ⟨r, hr⟩ := (n.rivers.mem_keys name).mp hname
  unfold outflowOn
  split
  · have hleft : (n.schedule share).rivers.get? name
        = some { r with volume := Volumes.left (n.draws share) name r.volume } := by
      rw [schedule, Table.get?_mapWithKey, hr]
      rfl
    rw [volumeOf_eq hleft, volumeOf_eq hr, left_draws (nonneg_volumes_iff.mpr hn) hshare
      (get?_volumes_of hr)]
  · rw [mul_one]

/-- What leaves for a name by one of the connections are fixed parts of what the rivers hold. -/
theorem waitingAt_outflowOn (hn : n.Nonneg) (hshare : 0 < share) (i : Nat) (name : String) :
    (n.outflowOn share day).network.waitingAt i name = n.waitingAt i name
      + if day ≤ n.outflowDays then
          (n.rivers.keys.map fun source => n.conveyed share i source name * n.volumeOf source).sum
        else 0 := by
  unfold outflowOn
  split
  · show (((n.flows.map (n.carry share))[i]?).bind _).getD 0 = _
    rw [List.getElem?_map, waitingAt]
    simp only [conveyed]
    cases hi : n.flows[i]? with
    | none => simp
    | some c =>
      show ((n.carry share c).waiting.get? name).getD 0 = (c.waiting.get? name).getD 0 + _
      rw [getD_waiting_carry hn hshare (List.mem_of_getElem? hi), gets_eq_sum, mul_div_left_comm,
        ← List.sum_map_mul_right]
      refine congrArg (_ + ·) (congrArg List.sum (List.map_congr_left fun source _ => ?_))
      rw [Option.map_some, Option.getD_some]
      ring
  · rw [add_zero]

/-- The outflow leaves no connection with less than nothing. -/
theorem nonneg_flows_outflowOn (hn : n.Nonneg) (hshare : 0 < share)
    (hwaiting : ∀ c ∈ n.flows, c.Nonneg) :
    ∀ c ∈ (n.outflowOn share day).network.flows, c.Nonneg := by
  unfold outflowOn
  split
  · intro c hc name x hx
    obtain ⟨c', hc', rfl⟩ := List.mem_map.mp hc
    have hgets : 0 ≤ n.gets share c' := gets_nonneg hn hshare c'
    have hbefore : 0 ≤ (c'.waiting.get? name).getD 0 := by
      cases hget : c'.waiting.get? name with
      | none => exact le_refl _
      | some y => exact hwaiting c' hc' hget
    have hcarried := getD_waiting_carry hn hshare hc' name
    change (n.carry share c').waiting.get? name = some x at hx
    rw [hx, Option.getD_some] at hcarried
    rw [hcarried]
    positivity
  · exact hwaiting

/-! ### A whole day -/

/-- Without dams, nothing spills, and the rivers hold what they held. -/
theorem volumeOf_level (hdams : n.dams.keys = []) (name : String) :
    n.level.volumeOf name = n.volumeOf name := by
  have hnone : n.dams.get? name = none := by
    rw [Table.get?_eq_none_iff, hdams]
    exact List.not_mem_nil
  rw [volumeOf, volumeOf, get?_volumes, get?_volumes, get?_rivers_level_of_none hnone]

/-- A day keeps a network without dams such that nothing in it is below nought. -/
theorem Undammed.undammed_day (hn : n.Undammed) (hshare : 0 < share) :
    (n.day rule share day).network.Undammed := by
  have hplan : (n.day rule share day).network.plan = n.plan := plan_day
  refine ⟨(keys_dams_of_plan_eq hplan).trans hn.dams, fun {name r} hr => ?_,
    hn.volume.network_day rule share, ?_⟩
  · have hrain : ((n.day rule share day).network.rivers.get? name).map River.rain
        = (n.rivers.get? name).map River.rain := rain_of_plan_eq hplan
    rw [hr] at hrain
    obtain ⟨r', hr', hsame⟩ := Option.map_eq_some_iff.mp hrain.symm
    exact hsame ▸ hn.rain hr'
  · exact nonneg_flows_outflowOn (hn.volume.atOutflow rule) hshare hn.nonneg_flows_atOutflow

/-- What a river holds after a day: a fixed part of what it held before, with the rain of the day
and what has waited for it. -/
theorem Undammed.volumeOf_day (hn : n.Undammed) (hshare : 0 < share)
    (hname : name ∈ n.rivers.keys) :
    (n.day rule share day).network.volumeOf name
      = (n.atOutflow rule day).volumeOf name
        * if day ≤ n.outflowDays then max (1 - n.timesAsked name * share) 0 else 1 := by
  have hplan : (n.atOutflow rule day).plan = n.plan := plan_atOutflow
  have hdams : (n.atEvening rule share day).dams.keys = [] :=
    (keys_dams_of_plan_eq plan_atEvening).trans hn.dams
  have hname' : name ∈ (n.atOutflow rule day).rivers.keys := keys_rivers_of_plan_eq hplan ▸ hname
  show (n.atEvening rule share day).level.volumeOf name = _
  rw [volumeOf_level hdams, atEvening,
    volumeOf_outflowOn (hn.volume.atOutflow rule) hshare hname', outflowDays_of_plan_eq hplan,
    timesAsked_of_flows_eq (congrArg Network.flows hplan)]

/-- What waits for a name after a day: fixed parts of what the rivers held when the outflow
began. -/
theorem Undammed.waitingAt_day (hn : n.Undammed) (hshare : 0 < share) (i : Nat) (name : String) :
    (n.day rule share day).network.waitingAt i name = (n.atOutflow rule day).waitingAt i name
      + if day ≤ n.outflowDays then
          (n.rivers.keys.map fun source =>
            n.conveyed share i source name * (n.atOutflow rule day).volumeOf source).sum
        else 0 := by
  have hplan : (n.atOutflow rule day).plan = n.plan := plan_atOutflow
  show (n.atEvening rule share day).waitingAt i name = _
  rw [atEvening, waitingAt_outflowOn (hn.volume.atOutflow rule) hshare,
    outflowDays_of_plan_eq hplan, keys_rivers_of_plan_eq hplan]
  simp only [conveyed_of_flows_eq (congrArg Network.flows hplan)]

end Network

end Catchment
