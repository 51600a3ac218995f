import Catchment.Proofs.Network.WellFormed
import Catchment.Simulation

/-!
# `Catchment.Proofs.Network.Water`: how much water there is, and where it may be

Water is in rivers or under way. A dam counts the water of its river a second
time, so it adds nothing. Between two days a network is at rest: nothing is below
nought, only some water waits to arrive, and every dam stands at the level of its
river, within its capacity.

* `Network.stored`, `Network.rainfall`: the water in all rivers, and the rain of a day.
* `inTransit_eq_sum`: what is under way is what waits to arrive.
* `Network.Sound`, `Network.AtRest`: what holds of the water at all times, and between days.
* `AtRest.of_fresh`: a network without water is at rest.
-/

set_option autoImplicit false

namespace Catchment

/-- Where no rain is less than none, it never rains less than not at all. -/
theorem River.rainOn_nonneg {K : Type} [Field K] [LinearOrder K] [Amount.Exact K] {r : River K}
    (h : ∀ x ∈ r.rain, 0 ≤ x) {day : Int} : 0 ≤ r.rainOn day := by
  unfold River.rainOn
  rw [Amount.zero_eq]
  split
  · cases hday : r.rain[(day - 1).toNat]? with
    | none => exact le_refl _
    | some x => exact h x (List.mem_of_getElem? hday)
  · exact le_refl _

namespace Network

section

variable {α : Type} [Amount α]

/-- The water in all rivers together. -/
def stored (n : Network α) : α := Amount.total n.volumes.values

/-- The rain of a day on all rivers together. -/
def rainfall (n : Network α) (day : Int) : α := Amount.total (n.rivers.values.map (·.rainOn day))

/-- All rain on all rivers together. -/
def totalRain (n : Network α) : α := Amount.total (n.rivers.values.map River.totalRain)

/-- What holds of the water at all times: no river holds less than nothing, no dam is below empty
or above full, and only some water waits, for a river that is there. -/
structure Sound (n : Network α) : Prop where
  volume : ∀ {name r}, n.rivers.get? name = some r → 0 ≤ r.volume
  level : ∀ {name d}, n.dams.get? name = some d → 0 ≤ d.level ∧ d.level ≤ d.capacity
  waiting : ∀ c ∈ n.flows, ∀ {name amount}, c.waiting.get? name = some amount →
    0 < amount ∧ name ∈ n.rivers.keys

/-- What holds of the water between two days: every dam stands at the level of its river, too. -/
structure AtRest (n : Network α) : Prop extends n.Sound where
  mirror : ∀ {name d}, n.dams.get? name = some d →
    ∃ r, n.rivers.get? name = some r ∧ r.volume = d.level

end

/-- No river holds less than nothing. -/
def Nonneg {K : Type} [Field K] [LinearOrder K] (n : Network K) : Prop :=
  ∀ ⦃name r⦄, n.rivers.get? name = some r → 0 ≤ r.volume

variable {n m : Network Rat} {day : Int}

/-- What is stored is the sum over the rivers of what each holds. -/
theorem stored_eq_weigh (n : Network Rat) : n.stored = n.rivers.weigh fun _ r => r.volume := by
  rw [stored, Amount.total_eq_sum, volumes, Table.values_map, Table.sum_values_map]

/-- The rain of a day is the sum over the rivers of the rain on each. -/
theorem rainfall_eq_weigh (n : Network Rat) (day : Int) :
    n.rainfall day = n.rivers.weigh fun _ r => r.rainOn day := by
  rw [rainfall, Amount.total_eq_sum, Table.sum_values_map]

/-- How much it rains on a day is declared. -/
theorem rainfall_plan : n.plan.rainfall day = n.rainfall day := by
  rw [rainfall_eq_weigh, rainfall_eq_weigh, plan, Table.weigh_map]
  rfl

/-- It rains as much on networks that are declared in the same way. -/
theorem rainfall_eq_of_plan_eq (h : m.plan = n.plan) : m.rainfall day = n.rainfall day := by
  rw [← rainfall_plan, h, rainfall_plan]

/-- What is under way is the sum over the connections of what waits in each. -/
theorem inTransit_eq_weigh (n : Network Rat) :
    n.inTransit = (n.flows.map fun c => c.waiting.weigh fun _ x => x).sum := by
  simp only [inTransit, Amount.total_eq_sum, Table.sum_values]

/-- What is under way is what waits to arrive. -/
theorem inTransit_eq_sum (n : Network Rat) : n.inTransit = (n.arrivals.map (·.2)).sum := by
  rw [inTransit_eq_weigh, arrivals, sum_map_flatMap]
  rfl

/-- No river has less than no rain on a day. -/
theorem rainOn_nonneg (h : n.All (0 ≤ ·)) {name : String} {r : River Rat}
    (hr : n.rivers.get? name = some r) : 0 ≤ r.rainOn day :=
  River.rainOn_nonneg (h.rain hr)

/-- Every arrival brings some water to a river that is there. -/
theorem Sound.arrivals (h : n.Sound) {arrival : String × Rat} (ha : arrival ∈ n.arrivals) :
    0 < arrival.2 ∧ arrival.1 ∈ n.rivers.keys := by
  obtain ⟨c, hc, hmem⟩ := List.mem_flatMap.mp ha
  exact h.waiting c hc ((Table.mem_entries _ _ _).mp hmem)

/-- The rivers of a network without its water hold nothing. -/
theorem volume_eq_zero_of_plan_eq {K : Type} [Field K] [LinearOrder K] [Amount.Exact K]
    {n : Network K} (hplan : n.plan = n) {name : String} {r : River K}
    (hr : n.rivers.get? name = some r) : r.volume = 0 := by
  rw [← hplan] at hr
  obtain ⟨r', -, rfl⟩ := get?_rivers_plan_eq_some.mp hr
  exact Amount.zero_eq

/-- The dams of a network without its water are empty. -/
theorem level_eq_zero_of_plan_eq {K : Type} [Field K] [LinearOrder K] [Amount.Exact K]
    {n : Network K} (hplan : n.plan = n) {name : String} {d : Dam K}
    (hd : n.dams.get? name = some d) : d.level = 0 := by
  rw [← hplan] at hd
  obtain ⟨d', -, rfl⟩ := get?_dams_plan_eq_some.mp hd
  exact Amount.zero_eq

/-- A network without water is at rest, if it is well-formed and none of its amounts is below
nought. -/
theorem AtRest.of_fresh (hwf : n.WellFormed) (hall : n.All (0 ≤ ·)) (hplan : n.plan = n) :
    n.AtRest := by
  have hriver : ∀ {name r}, n.rivers.get? name = some r → r.volume = 0 :=
    fun hr => volume_eq_zero_of_plan_eq hplan hr
  have hdam : ∀ {name d}, n.dams.get? name = some d → d.level = 0 :=
    fun hd => level_eq_zero_of_plan_eq hplan hd
  refine ⟨⟨fun {name r} hr => (hriver hr).ge, fun {name d} hd => ?_,
    fun c hc {name amount} h => ?_⟩, fun {name d} hd => ?_⟩
  · rw [hdam hd]
    exact ⟨le_refl _, hall.dam_capacity hd⟩
  · rw [waiting_eq_empty_of_plan_eq hplan hc] at h
    cases h
  · have hkey : name ∈ n.rivers.keys :=
      hwf.river_of_dam ((n.dams.mem_keys name).mpr ⟨d, hd⟩)
    obtain ⟨r, hr⟩ := (n.rivers.mem_keys name).mp hkey
    exact ⟨r, hr, (hriver hr).trans (hdam hd).symm⟩

/-- Nothing is stored in a network without its water. -/
theorem stored_plan : n.plan.stored = 0 := by
  rw [stored_eq_weigh, plan, Table.weigh_map]
  exact List.sum_eq_zero fun x hx => by
    obtain ⟨e, -, rfl⟩ := List.mem_map.mp hx
    rfl

/-- Nothing is under way if no connection has anything waiting. -/
theorem inTransit_eq_zero (h : ∀ c ∈ n.flows, c.waiting = ∅) : n.inTransit = 0 := by
  have hnone : n.arrivals = [] := by
    refine List.flatMap_eq_nil_iff.mpr fun c hc => ?_
    rw [h c hc]
    rfl
  rw [inTransit_eq_sum, hnone]
  rfl

/-- Nothing is under way in a network without its water. -/
theorem inTransit_plan : n.plan.inTransit = 0 := by
  refine inTransit_eq_zero fun c hc => ?_
  obtain ⟨c', -, rfl⟩ := List.mem_map.mp hc
  rfl

end Network

end Catchment
