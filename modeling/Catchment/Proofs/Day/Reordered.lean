import Catchment.Proofs.Day
import Catchment.Proofs.Day.Regulation

/-!
# `Catchment.Proofs.Day.Reordered`: one day, with the connections in another order

The connections of a network are put in another order. All of them ask their
sources at the same time, so the outflow of a day is the same. The arrivals come in
another order, and that makes a difference only to a dam that meets heavy rain, by
what comes in there first.

* `Network.withFlows`: a network with other connections.
* `schedule_withFlows`: the outflow does not depend on the order.
* `Network.OrderFree`: on a day, no dam depends on what comes in first.
* `settlement_withFlows`: then the arrivals do not depend on the order.
* `day_withFlows`: nor does the day.
-/

set_option autoImplicit false

namespace Catchment

namespace Network

/-- A network with other connections. -/
def withFlows {α : Type} (n : Network α) (flows : List (Connection α)) : Network α :=
  { n with flows := flows }

section

variable {n : Network Rat} {flows : List (Connection Rat)} (hperm : flows.Perm n.flows)

include hperm

/-- The water is as sound with the connections in another order. -/
theorem Sound.withFlows (hn : n.Sound) : (n.withFlows flows).Sound :=
  ⟨hn.volume, hn.level, fun c hc => hn.waiting c (hperm.mem_iff.mp hc)⟩

/-- A network is at rest with the connections in another order. -/
theorem AtRest.withFlows (hn : n.AtRest) : (n.withFlows flows).AtRest :=
  ⟨hn.toSound.withFlows hperm, hn.mirror⟩

/-- A network is well-formed with the connections in another order. -/
theorem WellFormed.withFlows (hn : n.WellFormed) : (n.withFlows flows).WellFormed :=
  ⟨hn.outflowDays, hn.river_name, hn.dam_name, hn.river_of_dam, hn.target,
    fun c hc => hn.joins c (hperm.mem_iff.mp hc)⟩

omit hperm in
/-- The amounts of a network are the same with the connections in another order. -/
theorem All.withFlows (hn : n.All (0 ≤ ·)) : (n.withFlows flows).All (0 ≤ ·) :=
  ⟨hn.rain, hn.dam_capacity, hn.capacity⟩

/-- As much is under way with the connections in another order. -/
theorem inTransit_withFlows : (n.withFlows flows).inTransit = n.inTransit := by
  rw [inTransit_eq_weigh, inTransit_eq_weigh]
  exact (hperm.map _).sum_eq

/-- The same arrives with the connections in another order, though not in the same one. -/
theorem arrivals_withFlows : (n.withFlows flows).arrivals.Perm n.arrivals :=
  hperm.flatMap_right _

end

/-! ### The outflow -/

section

variable {share : Rat} {n : Network Rat} {flows : List (Connection Rat)}
  (hperm : flows.Perm n.flows)

include hperm

/-- The same is asked for with the connections in another order, though not in the same one. -/
theorem draws_withFlows : ((n.withFlows flows).draws share).Perm (n.draws share) :=
  hperm.filterMap _

/-- A river is asked for the same by all connections together. -/
theorem asked_withFlows (name : String) (volume : Rat) :
    Volumes.asked ((n.withFlows flows).draws share) name volume
      = Volumes.asked (n.draws share) name volume := by
  rw [Volumes.asked_eq_sum, Volumes.asked_eq_sum]
  exact ((draws_withFlows hperm).map _).sum_eq

/-- A river grants the same part of what is asked of it, since that depends on a sum. -/
theorem granted_withFlows (name : String) (volume : Rat) :
    Volumes.granted ((n.withFlows flows).draws share) name volume
      = Volumes.granted (n.draws share) name volume := by
  rw [Volumes.granted_eq, Volumes.granted_eq, asked_withFlows hperm]

/-- A river is left with the same, since that depends on a sum. -/
theorem left_withFlows (name : String) (volume : Rat) :
    Volumes.left ((n.withFlows flows).draws share) name volume
      = Volumes.left (n.draws share) name volume := by
  simp only [Volumes.left, asked_withFlows hperm, granted_withFlows hperm]

/-- A connection sends the same wherever it stands among the others. -/
theorem sent_withFlows (c : Connection Rat) :
    (n.withFlows flows).sent? share c = n.sent? share c := by
  have hgrants : (n.withFlows flows).grants share = n.grants share := by
    refine List.map_congr_left fun ⟨name, volume⟩ _ => ?_
    show (name, volume, _) = (name, volume, _)
    rw [granted_withFlows hperm]
  rw [sent?, hgrants]
  rfl

/-- A connection is carried along in the same way wherever it stands among the others. -/
theorem carry_withFlows (c : Connection Rat) :
    (n.withFlows flows).carry share c = n.carry share c := by
  rw [carry, sent_withFlows hperm]
  rfl

/-- The outflow may be worked out before the connections are put in another order. -/
theorem schedule_withFlows :
    (n.withFlows flows).schedule share
      = (n.schedule share).withFlows (flows.map (n.carry share)) := by
  have hrivers : ((n.withFlows flows).schedule share).rivers = (n.schedule share).rivers := by
    simp only [schedule, left_withFlows hperm]
    rfl
  have hflows : ((n.withFlows flows).schedule share).flows = flows.map (n.carry share) := by
    rw [flows_schedule]
    exact List.map_congr_left fun c _ => carry_withFlows hperm c
  show ({ n with
    rivers := ((n.withFlows flows).schedule share).rivers
    flows := ((n.withFlows flows).schedule share).flows } : Network Rat) = _
  rw [hrivers, hflows]
  rfl

end

end Network

/-! ### The arrivals -/

/-- Where it does not matter what comes in first, the order of all that comes in does not
matter. -/
theorem Dam.Regular.levelAfter_perm {d : Dam Rat} (hd : d.Regular) {rule : StormRule Rat}
    {rain : Rat} (hrain : 0 ≤ rain) {xs ys : List Rat} (hperm : ys.Perm xs)
    (hxs : ∀ x ∈ xs, 0 ≤ x)
    (hfree : d.bracesFor rule rain = true → ∀ x ∈ xs, ∀ y ∈ xs,
      d.levelIfFirst rule rain xs.sum x = d.levelIfFirst rule rain xs.sum y) :
    d.levelAfter rule rain ys = d.levelAfter rule rain xs := by
  cases xs with
  | nil => rw [hperm.eq_nil]
  | cons x xs =>
    cases ys with
    | nil => exact absurd hperm.symm.eq_nil (List.cons_ne_nil _ _)
    | cons y ys =>
      have hy : y ∈ x :: xs := hperm.mem_iff.mp List.mem_cons_self
      rw [levelAfter, levelAfter, hperm.sum_eq]
      cases hbraces : d.bracesFor rule rain with
      | true => exact hfree hbraces y hy x List.mem_cons_self
      | false =>
        -- Without heavy rain the level is told from the sum of all that comes in.
        have hcalm : ∀ z ∈ x :: xs, d.levelIfFirst rule rain (x :: xs).sum z
            = min (d.available (x :: xs).sum rain) d.target := fun z hz =>
          levelIfFirst_of_calm hd.capacity_nonneg hd.target
            (hd.available_nonneg hrain (hxs z hz)) (List.single_le_sum hxs z hz) hbraces
        rw [hcalm y hy, hcalm x List.mem_cons_self]

namespace Network

/-- On a day, no dam that meets heavy rain comes to another level if something else comes in
first. -/
def OrderFree (rule : StormRule Rat) (n : Network Rat) (day : Int) : Prop :=
  ∀ {name d r}, n.dams.get? name = some d → n.rivers.get? name = some r →
    d.bracesFor rule (r.rainOn day) = true →
    ∀ x ∈ amountsTo name n.arrivals, ∀ y ∈ amountsTo name n.arrivals,
      d.levelIfFirst rule (r.rainOn day) (amountsTo name n.arrivals).sum x
        = d.levelIfFirst rule (r.rainOn day) (amountsTo name n.arrivals).sum y

section

variable {rule : StormRule Rat} {day : Int} {n : Network Rat} {flows : List (Connection Rat)}
  (hperm : flows.Perm n.flows) (hrule : rule.Admissible) (hn : n.Sound) (hwf : n.WellFormed)
  (hall : n.All (0 ≤ ·)) (hahead : n.RainAhead day) (hfree : n.OrderFree rule day)

include hperm hrule hn hwf hall hahead hfree

/-- Then the arrivals do not depend on the order of the connections. -/
theorem settlement_withFlows :
    let s := n.settlement rule day n.nothingReleased
    let s' := (n.withFlows flows).settlement rule day (n.withFlows flows).nothingReleased
    s'.rivers = s.rivers ∧ s'.dams = s.dams ∧ s'.released = s.released := by
  intro s s'
  have h : s.Regulated rule day n n.arrivals := regulated_settlement hrule hn hwf hall
  have h' : s'.Regulated rule day (n.withFlows flows) (n.withFlows flows).arrivals :=
    regulated_settlement hrule (hn.withFlows hperm) (hwf.withFlows hperm) hall.withFlows
  have hsteady : s.Steady day n := steady_settlement hn hahead
  have hsteady' : s'.Steady day (n.withFlows flows) :=
    steady_settlement (hn.withFlows hperm) hahead
  -- To every name comes the same, in another order.
  have hamounts : ∀ name, (amountsTo name (n.withFlows flows).arrivals).Perm
      (amountsTo name n.arrivals) := fun name =>
    ((arrivals_withFlows hperm).filter _).map _
  have hempty : ∀ name, amountsTo name (n.withFlows flows).arrivals = []
      ↔ amountsTo name n.arrivals = [] := fun name =>
    ⟨fun he => (he ▸ hamounts name).symm.eq_nil, fun he => (he ▸ hamounts name).eq_nil⟩
  -- So every dam comes to the same level.
  have hlevel : ∀ {name d r}, n.dams.get? name = some d → n.rivers.get? name = some r →
      d.levelAfter rule (r.rainOn day) (amountsTo name (n.withFlows flows).arrivals)
        = d.levelAfter rule (r.rainOn day) (amountsTo name n.arrivals) := fun hd hr =>
    (hn.regular hwf hd).levelAfter_perm (rainOn_nonneg hall hr) (hamounts _) h.amountsTo_pos
      (hfree hd hr)
  have hriver : ∀ {name}, name ∈ n.dams.keys → ∃ d r, n.dams.get? name = some d ∧
      n.rivers.get? name = some r := by
    intro name hname
    obtain ⟨d, hd⟩ := (n.dams.mem_keys name).mp hname
    obtain ⟨r, hr⟩ := (n.rivers.mem_keys name).mp (hwf.river_of_dam hname)
    exact ⟨d, r, hd, hr⟩
  refine ⟨Table.ext_get?_of_mem (hsteady'.keys_rivers.trans hsteady.keys_rivers.symm) ?_,
    Table.ext_get?_of_mem (hsteady'.keys_dams.trans hsteady.keys_dams.symm) ?_,
    Table.ext_get?_of_mem (hsteady'.released_keys.trans hsteady.released_keys.symm) ?_⟩
  · intro name hname
    obtain ⟨r, hr⟩ := (n.rivers.mem_keys name).mp (hsteady'.keys_rivers ▸ hname)
    cases hd : n.dams.get? name with
    | none => rw [h.plain hr hd, h'.plain hr hd, (hamounts name).sum_eq]
    | some d =>
      rw [h.mirror hd hr, h'.mirror hd hr, hlevel hd hr]
      simp only [hempty]
  · intro name hname
    obtain ⟨d, r, hd, hr⟩ := hriver (hsteady'.keys_dams ▸ hname)
    rw [h.dam hd hr, h'.dam hd hr, hlevel hd hr]
  · intro name hname
    obtain ⟨d, r, hd, hr⟩ := hriver (hsteady'.released_keys ▸ hname)
    rw [h.released hd hr, h'.released hd hr, Dam.releaseAfter, Dam.releaseAfter, hlevel hd hr,
      (hamounts name).sum_eq]
    simp only [hempty]

end

/-! ### The day -/

/-- Rain does not make the order of the connections matter: it changes neither what waits nor any
dam. -/
theorem OrderFree.takeRain {rule : StormRule Rat} {day : Int} {n : Network Rat}
    (h : n.OrderFree rule day) : (n.takeRain day).OrderFree rule day := by
  intro name d r hd hr hbraces
  rw [Network.takeRain, Table.get?_map] at hr
  obtain ⟨r', hr', rfl⟩ := Option.map_eq_some_iff.mp hr
  rw [River.rainOn_takeRain] at hbraces ⊢
  exact h hd hr' hbraces

variable {rule : StormRule Rat} {share : Rat} {day : Int} {n : Network Rat}

/-- Each connection is emptied, or none is, if the day is the first. -/
theorem arrivalsOn_withFlows (hrule : rule.Admissible) (hn : n.Sound) (hwf : n.WellFormed)
    (hall : n.All (0 ≤ ·)) (hahead : n.RainAhead day) (hfree : 1 < day → n.OrderFree rule day) :
    ∃ f : Connection Rat → Connection Rat,
      (n.arrivalsOn rule day).network.flows = n.flows.map f ∧
      ∀ {flows}, flows.Perm n.flows →
        ((n.withFlows flows).arrivalsOn rule day).network
            = (n.arrivalsOn rule day).network.withFlows (flows.map f) ∧
          ((n.withFlows flows).arrivalsOn rule day).released
            = (n.arrivalsOn rule day).released := by
  unfold arrivalsOn
  by_cases hfirst : 1 < day
  · simp only [if_pos hfirst]
    refine ⟨Connection.idle, rfl, fun {flows} hperm => ?_⟩
    obtain ⟨hrivers, hdams, hreleased⟩ :=
      settlement_withFlows hperm hrule hn hwf hall hahead (hfree hfirst)
    refine ⟨?_, hreleased⟩
    unfold settle
    simp only [hrivers, hdams]
    rfl
  · simp only [if_neg hfirst]
    exact ⟨id, (List.map_id _).symm, fun {flows} _ => ⟨by rw [List.map_id], rfl⟩⟩

/-- Each connection gets what it gets in any order, or none gets anything, if the days of outflow
are over. -/
theorem outflowOn_withFlows (share : Rat) (day : Int) (n : Network Rat) :
    ∃ f : Connection Rat → Connection Rat,
      (n.outflowOn share day).network.flows = n.flows.map f ∧
      ∀ {flows}, flows.Perm n.flows →
        ((n.withFlows flows).outflowOn share day).network
          = (n.outflowOn share day).network.withFlows (flows.map f) := by
  have hdays : ∀ flows, (n.withFlows flows).outflowDays = n.outflowDays := fun _ => rfl
  unfold outflowOn
  simp only [hdays]
  by_cases hopen : day ≤ n.outflowDays
  · simp only [if_pos hopen]
    exact ⟨n.carry share, rfl, fun {flows} hperm => schedule_withFlows hperm⟩
  · simp only [if_neg hopen]
    exact ⟨id, (List.map_id _).symm, fun {flows} _ => by rw [List.map_id]⟩

/-- A day does not depend on the order of the connections: each of them is changed in the same
way, and the rest of the network as well. -/
theorem day_withFlows (share : Rat) (day : Int) (hrule : rule.Admissible) (hn : n.AtRest)
    (hwf : n.WellFormed) (hall : n.All (0 ≤ ·)) (hfree : 1 < day → n.OrderFree rule day) :
    ∃ f : Connection Rat → Connection Rat,
      (n.day rule share day).network.flows = n.flows.map f ∧
      ∀ {flows}, flows.Perm n.flows →
        ((n.withFlows flows).day rule share day).network
            = (n.day rule share day).network.withFlows (flows.map f) ∧
          ((n.withFlows flows).day rule share day).released
            = (n.day rule share day).released := by
  obtain ⟨f, hemptied, harrivals⟩ := arrivalsOn_withFlows (n := n.takeRain day) hrule
    (hn.toSound.takeRain hall) (hwf.of_plan_eq plan_takeRain) (hall.of_plan_eq plan_takeRain)
    (hn.rainAhead hall) fun h => OrderFree.takeRain (hfree h)
  obtain ⟨g, hfilled, houtflow⟩ := outflowOn_withFlows share day (n.atOutflow rule day)
  have hmidday : (n.atOutflow rule day).flows = n.flows.map f := hemptied
  -- A connection is emptied first, and filled again by the outflow.
  refine ⟨g ∘ f, ?_, fun {flows} hperm => ?_⟩
  · rw [← List.map_map, ← hmidday]
    exact hfilled
  · obtain ⟨hnetwork, hreleased⟩ := harrivals hperm
    have hevening : (n.withFlows flows).atEvening rule share day
        = (n.atEvening rule share day).withFlows ((flows.map f).map g) := by
      have hstart : (n.withFlows flows).atOutflow rule day
          = (n.atOutflow rule day).withFlows (flows.map f) := hnetwork
      rw [atEvening, hstart]
      exact houtflow (hmidday ▸ hperm.map f)
    constructor
    · show ((n.withFlows flows).atEvening rule share day).level = _
      rw [hevening, List.map_map]
      rfl
    · have hbefore : (n.withFlows flows).releasedOn rule day = n.releasedOn rule day := hreleased
      show ((n.withFlows flows).atEvening rule share day).spilled
        ((n.withFlows flows).releasedOn rule day) = _
      rw [hevening, hbefore]
      rfl

end Network

end Catchment
