import Catchment.Proofs.Table
import Catchment.Network

/-!
# `Catchment.Proofs.Network.WellFormed`: what was declared, and what flows through it

A network has two sides. Its plan is what was declared: names, rain, capacities,
targets, routes, and the days of outflow. The water is the rest: what rivers hold,
where dams stand, and what waits in connections. A run moves the water and leaves
the plan alone, so the predicates here read the plan only.

* `Network.plan`: the network without its water.
* `Network.WellFormed`: entries stand under their own names, dams stand in rivers,
  connections join rivers, and targets are percentages.
* `Network.All`: every amount of the plan has a property.
* `wellFormed_plan`, `all_plan`: both are about the plan.
-/

set_option autoImplicit false

namespace Catchment

variable {α : Type} [Amount α]

/-- A river without its water. -/
def River.bed (r : River α) : River α := { r with volume := 0 }

/-- A dam without its water. -/
def Dam.drained (d : Dam α) : Dam α := { d with level := 0 }

/-- A connection in which nothing waits. -/
def Connection.idle {α : Type} (c : Connection α) : Connection α := { c with waiting := ∅ }

/-- A connection leads from some rivers to some rivers, all of which are declared. -/
structure Connection.Joins {α : Type} (declared : String → Prop) (c : Connection α) : Prop where
  sources_ne : c.sources ≠ []
  destinations_ne : c.destinations ≠ []
  sources : ∀ name ∈ c.sources, declared name
  destinations : ∀ name ∈ c.destinations, declared name

namespace Network

/-- What was declared: the network without its water. -/
def plan (n : Network α) : Network α :=
  { n with
    rivers := n.rivers.map River.bed
    dams := n.dams.map Dam.drained
    flows := n.flows.map Connection.idle }

/-- A network as declarations build it, whatever water is in it. -/
structure WellFormed (n : Network α) : Prop where
  outflowDays : shortestOutflow ≤ n.outflowDays
  river_name : ∀ {name r}, n.rivers.get? name = some r → r.name = name
  dam_name : ∀ {name d}, n.dams.get? name = some d → d.name = name
  /-- A dam stands in the river of its name. -/
  river_of_dam : ∀ {name}, name ∈ n.dams.keys → name ∈ n.rivers.keys
  target : ∀ {name d}, n.dams.get? name = some d → 0 ≤ d.targetPercent ∧ d.targetPercent ≤ 100
  joins : ∀ c ∈ n.flows, c.Joins (· ∈ n.rivers.keys)

/-- Every amount of the plan has a property: rain, the capacities of dams, and those declared by
themselves. -/
structure All (P : α → Prop) (n : Network α) : Prop where
  rain : ∀ {name r}, n.rivers.get? name = some r → ∀ x ∈ r.rain, P x
  dam_capacity : ∀ {name d}, n.dams.get? name = some d → P d.capacity
  capacity : ∀ {name c}, n.capacities.get? name = some c → P c

section

variable {n m : Network α}

/-- A network without its water has the same rivers by name. -/
@[simp]
theorem keys_rivers_plan : n.plan.rivers.keys = n.rivers.keys := Table.keys_map _ _

/-- A network without its water has the same dams by name. -/
@[simp]
theorem keys_dams_plan : n.plan.dams.keys = n.dams.keys := Table.keys_map _ _

/-- A river of a network without its water is the river of the network without its water. -/
theorem get?_rivers_plan (name : String) :
    n.plan.rivers.get? name = (n.rivers.get? name).map River.bed :=
  Table.get?_map _ _ _

/-- A dam of a network without its water is the dam of the network without its water. -/
theorem get?_dams_plan (name : String) :
    n.plan.dams.get? name = (n.dams.get? name).map Dam.drained :=
  Table.get?_map _ _ _

/-- The rivers that are found in a network without its water are those of the network, each
without its water. -/
theorem get?_rivers_plan_eq_some {name : String} {r : River α} :
    n.plan.rivers.get? name = some r ↔ ∃ r', n.rivers.get? name = some r' ∧ r'.bed = r := by
  rw [get?_rivers_plan, Option.map_eq_some_iff]

/-- The dams that are found in a network without its water are those of the network, each without
its water. -/
theorem get?_dams_plan_eq_some {name : String} {d : Dam α} :
    n.plan.dams.get? name = some d ↔ ∃ d', n.dams.get? name = some d' ∧ d'.drained = d := by
  rw [get?_dams_plan, Option.map_eq_some_iff]

/-- A river that is found in a network is found without its water in the network without its
water. -/
theorem get?_rivers_plan_of {name : String} {r : River α} (h : n.rivers.get? name = some r) :
    n.plan.rivers.get? name = some r.bed :=
  get?_rivers_plan_eq_some.mpr ⟨r, h, rfl⟩

/-- A dam that is found in a network is found without its water in the network without its
water. -/
theorem get?_dams_plan_of {name : String} {d : Dam α} (h : n.dams.get? name = some d) :
    n.plan.dams.get? name = some d.drained :=
  get?_dams_plan_eq_some.mpr ⟨d, h, rfl⟩

/-- There is no water in a network if there is none in its rivers, dams and connections. -/
theorem plan_eq_self_iff :
    n.plan = n ↔ n.rivers.map River.bed = n.rivers ∧ n.dams.map Dam.drained = n.dams ∧
      n.flows.map Connection.idle = n.flows := by
  constructor
  · intro h
    exact ⟨congrArg Network.rivers h, congrArg Network.dams h, congrArg Network.flows h⟩
  · rintro ⟨hrivers, hdams, hflows⟩
    unfold plan
    rw [hrivers, hdams, hflows]

/-- Nothing waits in a network without water. -/
theorem waiting_eq_empty_of_plan_eq (hplan : n.plan = n) {c : Connection α} (hc : c ∈ n.flows) :
    c.waiting = ∅ := by
  rw [← hplan] at hc
  obtain ⟨c', -, rfl⟩ := List.mem_map.mp hc
  rfl

/-- Whether a network is well-formed does not depend on its water. -/
theorem wellFormed_plan : n.plan.WellFormed ↔ n.WellFormed := by
  -- The plan has the keys, names and connections of the network, and only these are asked for.
  constructor
  · intro h
    refine ⟨h.outflowDays, fun {name r} hr => ?_, fun {name d} hd => ?_, fun {name} hd => ?_,
      fun {name d} hd => ?_, fun c hc => ?_⟩
    · exact (h.river_name (get?_rivers_plan_of hr) :)
    · exact (h.dam_name (get?_dams_plan_of hd) :)
    · rw [← keys_rivers_plan]
      exact h.river_of_dam (keys_dams_plan (n := n) ▸ hd)
    · exact (h.target (get?_dams_plan_of hd) :)
    · obtain ⟨hs, hd, hsources, hdestinations⟩ := h.joins c.idle (List.mem_map_of_mem hc)
      rw [keys_rivers_plan] at hsources hdestinations
      exact ⟨hs, hd, hsources, hdestinations⟩
  · intro h
    refine ⟨h.outflowDays, fun {name r} hr => ?_, fun {name d} hd => ?_, fun {name} hd => ?_,
      fun {name d} hd => ?_, fun c hc => ?_⟩
    · obtain ⟨r', hr', rfl⟩ := get?_rivers_plan_eq_some.mp hr
      exact (h.river_name hr' :)
    · obtain ⟨d', hd', rfl⟩ := get?_dams_plan_eq_some.mp hd
      exact (h.dam_name hd' :)
    · rw [keys_dams_plan] at hd
      rw [keys_rivers_plan]
      exact h.river_of_dam hd
    · obtain ⟨d', hd', rfl⟩ := get?_dams_plan_eq_some.mp hd
      exact (h.target hd' :)
    · obtain ⟨c', hc', rfl⟩ := List.mem_map.mp hc
      obtain ⟨hs, hd, hsources, hdestinations⟩ := h.joins c' hc'
      refine ⟨hs, hd, ?_, ?_⟩ <;> rw [keys_rivers_plan]
      · exact hsources
      · exact hdestinations

/-- What all amounts of a plan have in common is about the plan. -/
theorem all_plan {P : α → Prop} : n.plan.All P ↔ n.All P := by
  constructor
  · intro h
    refine ⟨fun {name r} hr => ?_, fun {name d} hd => ?_, h.capacity⟩
    · exact (h.rain (get?_rivers_plan_of hr) :)
    · exact (h.dam_capacity (get?_dams_plan_of hd) :)
  · intro h
    refine ⟨fun {name r} hr => ?_, fun {name d} hd => ?_, h.capacity⟩
    · obtain ⟨r', hr', rfl⟩ := get?_rivers_plan_eq_some.mp hr
      exact (h.rain hr' :)
    · obtain ⟨d', hd', rfl⟩ := get?_dams_plan_eq_some.mp hd
      exact (h.dam_capacity hd' :)

/-- A network is well-formed if it is declared in the same way as one that is. -/
theorem WellFormed.of_plan_eq (h : n.WellFormed) (hplan : m.plan = n.plan) : m.WellFormed :=
  wellFormed_plan.mp (hplan ▸ wellFormed_plan.mpr h)

/-- The amounts of networks that are declared in the same way have the same properties. -/
theorem All.of_plan_eq {P : α → Prop} (h : n.All P) (hplan : m.plan = n.plan) : m.All P :=
  all_plan.mp (hplan ▸ all_plan.mpr h)

/-- Networks that are declared in the same way have the same rivers by name. -/
theorem keys_rivers_of_plan_eq (hplan : m.plan = n.plan) : m.rivers.keys = n.rivers.keys := by
  rw [← keys_rivers_plan, hplan, keys_rivers_plan]

/-- Networks that are declared in the same way have the same dams by name. -/
theorem keys_dams_of_plan_eq (hplan : m.plan = n.plan) : m.dams.keys = n.dams.keys := by
  rw [← keys_dams_plan, hplan, keys_dams_plan]

/-- Networks that are declared in the same way have as many days of outflow. -/
theorem outflowDays_of_plan_eq (hplan : m.plan = n.plan) : m.outflowDays = n.outflowDays :=
  (congrArg Network.outflowDays hplan :)

/-- A connection of one of two networks that are declared in the same way is one of the other,
apart from what waits in it. -/
theorem exists_connection_of_plan_eq (hplan : m.plan = n.plan) {c : Connection α}
    (hc : c ∈ m.flows) :
    ∃ c' ∈ n.flows, c'.idle = c.idle := by
  have hidle : c.idle ∈ m.plan.flows := List.mem_map_of_mem hc
  rw [hplan] at hidle
  exact List.mem_map.mp hidle

/-- Rivers of networks that are declared in the same way have the same rain. -/
theorem rain_of_plan_eq (hplan : m.plan = n.plan) {name : String} :
    (m.rivers.get? name).map River.rain = (n.rivers.get? name).map River.rain := by
  have h := congrArg (fun p : Network α => (p.rivers.get? name).map River.rain) hplan
  simpa [get?_rivers_plan, Function.comp_def, River.bed] using h

end

end Network

end Catchment
