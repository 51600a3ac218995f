import Catchment.Proofs.Conservation
import Catchment.Proofs.Day.Confined
import Catchment.Proofs.Simulation.Recorded

/-!
# `Catchment.Proofs.Confinement`: what is not connected does not interfere

Two networks without a name in common are declared side by side. Then the whole runs as
the two run by themselves: whatever it is stepped through, each part holds the water that
it holds alone, waits for it in its own connections, and has the same record. Only the
length of a run may be another, for the rain of one part may last longer than that of the
other.

* `PartOf.afterDays`: the days from the first on keep a part.
* `PartOf.releases_afterDays`, `PartOf.history_afterDays`: the record of a part.
* `PartOf.lastDay_le`, `PartOf.withoutCapacity`: the run of a part.
* `unconnected_networks_do_not_interfere`: networks side by side.
-/

set_option autoImplicit false

namespace Catchment

namespace Network

variable {rule : StormRule Rat} {share : Rat} {names : List String} {n n₁ n₂ : Network Rat}

/-! ### The days from the first on -/

/-- A part stays a part through the days of outflow: each day keeps it one. -/
theorem PartOf.afterDays (h : n₁.PartOf names n) (k : Nat) :
    (n₁.afterDays rule share k).PartOf names (n.afterDays rule share k) := by
  induction k with
  | zero => exact h
  | succ k ih => exact ih.partOf_day.1

/-- On every day the dams of a part let go as much as they do in the part alone. -/
theorem PartOf.released_dayOf (h : n₁.PartOf names n) (d : Nat) :
    (n.dayOf rule share d).released.restrict names = (n₁.dayOf rule share d).released :=
  (h.afterDays (d - 1)).partOf_day.2

/-- The record of what was let go, for the dams of a part, is that of the part alone. -/
theorem PartOf.releases_afterDays (h : n₁.PartOf names n) (settings : Settings Rat)
    (days : List Nat) :
    ((Simulation.start settings share n).afterDays n days).releases.restrict names
      = ((Simulation.start settings share n₁).afterDays n₁ days).releases := by
  have hstart : (Simulation.start settings share n).releases.restrict names
      = (Simulation.start settings share n₁).releases := by
    rw [Simulation.start, Simulation.start, Table.restrict_map, h.dams]
  simp only [Simulation.afterDays, Table.restrict_mapWithKey, hstart]
  refine Table.mapWithKey_congr fun name amounts hget => ?_
  have hname : name ∈ names :=
    Table.mem_names_of_mem_keys_restrict (hstart ▸ (Table.mem_keys _ _).mpr ⟨amounts, hget⟩)
  congr 2
  funext d
  rw [← h.released_dayOf, Table.get?_restrict, if_pos hname]
  rfl

/-- What the rivers of a part held after each day is what they hold in the part alone. -/
theorem PartOf.history_afterDays (h : n₁.PartOf names n) (settings : Settings Rat)
    (days : List Nat) :
    ((Simulation.start settings share n).afterDays n days).history.map (Table.restrict names)
      = ((Simulation.start settings share n₁).afterDays n₁ days).history := by
  show ([] ++ days.map _).map _ = [] ++ days.map _
  rw [List.nil_append, List.nil_append, List.map_map]
  exact List.map_congr_left fun d _ => (h.afterDays d).volumes

/-! ### A whole run -/

/-- A part is run for no more days than the whole. -/
theorem PartOf.lastDay_le (h : n₁.PartOf names n) : n₁.lastDay ≤ n.lastDay := by
  refine max_le ?_ ?_
  · rw [h.outflowDays]
    exact le_max_left _ _
  · refine List.foldlRecOn (motive := fun longest => longest ≤ n.lastDay) _ _ (Nat.zero_le _)
      fun longest hlongest length hlength => ?_
    refine max_le hlongest ?_
    obtain ⟨r, hr, rfl⟩ := List.mem_map.mp hlength
    rw [← h.rivers] at hr
    exact length_rain_le_lastDay ((List.filter_sublist.map _).subset hr)

/-- A part has a capacity for every river, if the whole has one and what is declared of it is
declared in the part. -/
theorem PartOf.withoutCapacity (h : n₁.PartOf names n)
    (hcapacities : n.capacities.restrict names = n₁.capacities) (hnone : n.withoutCapacity = []) :
    n₁.withoutCapacity = [] := by
  -- A river of the part is one of the whole, which has a capacity or a dam for it under the same
  -- name.
  refine List.filter_eq_nil_iff.mpr fun name hname => ?_
  have hown : name ∈ names := h.mem_names hname
  have hname' : name ∈ n.rivers.keys := by
    rw [← h.keys_rivers, List.mem_filter] at hname
    exact hname.1
  have hcontains : n₁.capacities.contains name = n.capacities.contains name ∧
      n₁.dams.contains name = n.dams.contains name := by
    refine ⟨?_, congrArg Option.isSome (h.get?_dams hown)⟩
    rw [← hcapacities, Table.contains, Table.get?_restrict, if_pos hown, Table.contains]
  rw [hcontains.1, hcontains.2]
  exact List.filter_eq_nil_iff.mp hnone name hname'

/-- Two networks, each of which a text declares, have no name in common and as many days of
outflow. They are declared side by side, in any way that keeps the order of each. Then stepping
through the days from the first on leads to the same water in the first of the two as in that
network alone: in its rivers, at its dams, and in its connections, with the same record of what
was let go each day and of what was held. A run that comes to its end reports what the first
network reports by itself, up to the last day of that. -/
theorem unconnected_networks_do_not_interfere {text₁ text₂ : String}
    (h₁ : ofText? text₁ = some n₁) (h₂ : ofText? text₂ = some n₂)
    (hnames : ∀ name ∈ n₁.names, name ∉ n₂.names) (h : n.Interleaves n₁ n₂)
    (settings : Settings Rat) (share : Rat) :
    (∀ k : Nat,
      let after (m : Network Rat) : Progress Rat :=
        (Simulation.start settings share m).steps m
          ((List.range' 1 k).map fun (d : Nat) => (d : Int))
      (after n).error = none ∧ (after n₁).error = none ∧
        (after n).network.volumes.restrict n₁.names = (after n₁).network.volumes ∧
        ((after n).network.dams.map (·.level)).restrict n₁.names
          = (after n₁).network.dams.map (·.level) ∧
        (after n).network.flowsFrom n₁.names = (after n₁).network.flows ∧
        (after n).simulation.releases.restrict n₁.names = (after n₁).simulation.releases ∧
        (after n).simulation.history.map (Table.restrict n₁.names)
          = (after n₁).simulation.history) ∧
      ∀ report, ((Simulation.start settings share n).run n).2 = some report →
        ∃ report₁, ((Simulation.start settings share n₁).run n₁).2 = some report₁ ∧
          n₁.lastDay ≤ n.lastDay ∧
          report₁.history = (report.history.take n₁.lastDay).map (Table.restrict n₁.names) := by
  have hfresh₁ : n₁.Fresh (0 ≤ ·) := fresh_of_text h₁
  have hfresh₂ : n₂.Fresh (0 ≤ ·) := fresh_of_text h₂
  have hpart : n₁.PartOf n₁.names n :=
    h.partOf hnames hfresh₁.wellFormed hfresh₂.wellFormed hfresh₁.plan_eq hfresh₂.plan_eq
  have hkeys :
      ∀ m : Network Rat, (Simulation.start settings share m).releases.keys = m.dams.keys :=
    fun m => Table.keys_map _ _
  refine ⟨fun k => ?_, fun report hreport => ?_⟩
  · intro after
    obtain ⟨hnetwork, hsimulation, herror⟩ := Simulation.steps_firstDays (hkeys n) k
    obtain ⟨hnetwork₁, hsimulation₁, herror₁⟩ := Simulation.steps_firstDays (hkeys n₁) k
    have hafter : (after n₁).network.PartOf n₁.names (after n).network := by
      simp only [after, hnetwork, hnetwork₁]
      exact hpart.afterDays k
    refine ⟨herror, herror₁, hafter.volumes, ?_, hafter.flows, ?_, ?_⟩
    · rw [Table.restrict_map, hafter.dams]
    · simp only [after, hsimulation, hsimulation₁]
      exact hpart.releases_afterDays settings _
    · simp only [after, hsimulation, hsimulation₁]
      exact hpart.history_afterDays settings _
  · have hcapacity : n.withoutCapacity = [] := Simulation.withoutCapacity_of_report hreport
    have hcapacity₁ : n₁.withoutCapacity = [] :=
      hpart.withoutCapacity (h.capacities_restrict hnames) hcapacity
    rw [Simulation.run_eq (hkeys n) hcapacity] at hreport
    refine ⟨_, by rw [Simulation.run_eq (hkeys n₁) hcapacity₁], hpart.lastDay_le, ?_⟩
    cases hreport
    -- The first days of the longer run are the days of the shorter one.
    show ((Simulation.start settings share n₁).afterDays n₁ _).history
      = (((Simulation.start settings share n).afterDays n _).history.take _).map _
    have hdays : List.range' 1 n.lastDay
        = List.range' 1 n₁.lastDay ++ List.range' (1 + n₁.lastDay) (n.lastDay - n₁.lastDay) := by
      rw [List.range'_append_1, Nat.add_sub_cancel' hpart.lastDay_le]
    rw [← hpart.history_afterDays settings, hdays]
    simp only [Simulation.afterDays, Simulation.start, List.nil_append, List.map_append]
    rw [List.take_left' (by rw [List.length_map, List.length_range'])]

/-- A river that feeds a dam, and two further rivers, declared line by line in turn: the run
reports of the first two what they report by themselves. -/
theorem unconnected_networks_do_not_interfere_reservoir :
    let pair :=
      "River p = 8mm; River q = 1mm; Flow g = p -> q; Capacity p = 9ML; Capacity q = 9ML;"
    let n₁ : Network Rat :=
      { (empty : Network Rat) with
        rivers := ⟨[("a", ⟨"a", [30, 10], 0⟩), ("d", ⟨"d", [0, 0, 0, 4], 0⟩)], by decide⟩
        dams := ⟨[("d", ⟨"d", 20, 50, 0⟩)], by decide⟩
        capacities := ⟨[("a", 50)], by decide⟩
        flows := [⟨some "f", ["a"], ["d"], ∅⟩] }
    let n₂ : Network Rat :=
      { (empty : Network Rat) with
        rivers := ⟨[("p", ⟨"p", [8], 0⟩), ("q", ⟨"q", [1], 0⟩)], by decide⟩
        capacities := ⟨[("p", 9), ("q", 9)], by decide⟩
        flows := [⟨some "g", ["p"], ["q"], ∅⟩] }
    let n : Network Rat :=
      { (empty : Network Rat) with
        rivers := ⟨[("a", ⟨"a", [30, 10], 0⟩), ("p", ⟨"p", [8], 0⟩),
          ("d", ⟨"d", [0, 0, 0, 4], 0⟩), ("q", ⟨"q", [1], 0⟩)], by decide⟩
        dams := ⟨[("d", ⟨"d", 20, 50, 0⟩)], by decide⟩
        capacities := ⟨[("a", 50), ("p", 9), ("q", 9)], by decide⟩
        flows := [⟨some "g", ["p"], ["q"], ∅⟩, ⟨some "f", ["a"], ["d"], ∅⟩] }
    ofText? reservoirText = some n₁ ∧ ofText? pair = some n₂ ∧ n.Interleaves n₁ n₂ ∧
      ∃ report report₁, ((Simulation.start .default (1 / 2) n).run n).2 = some report ∧
        ((Simulation.start .default (1 / 2) n₁).run n₁).2 = some report₁ ∧
        report₁.history = (report.history.take 4).map (Table.restrict n₁.names) := by
  intro pair n₁ n₂ n
  have h₁ : ofText? reservoirText = some n₁ := by decide +kernel
  have h₂ : ofText? pair = some n₂ := by decide +kernel
  have hmixed : n.Interleaves n₁ n₂ :=
    ⟨.left _ (.right _ (.left _ (.right _ .nil))), .left _ .nil,
      .left _ (.right _ (.right _ .nil)), .right _ (.left _ .nil), rfl, rfl⟩
  have hnames : ∀ name ∈ n₁.names, name ∉ n₂.names := by decide +kernel
  have hcapacity : n.withoutCapacity = [] := by decide +kernel
  obtain ⟨-, hrun⟩ := unconnected_networks_do_not_interfere h₁ h₂ hnames hmixed .default (1 / 2)
  have hreport : ((Simulation.start .default (1 / 2) n).run n).2.isSome := by
    rw [Simulation.run_eq (Table.keys_map _ _) hcapacity]
    rfl
  obtain ⟨report, hreport⟩ := Option.isSome_iff_exists.mp hreport
  obtain ⟨report₁, hreport₁, -, hhistory⟩ := hrun report hreport
  have hlast : n₁.lastDay = 4 := by decide +kernel
  rw [hlast] at hhistory
  exact ⟨h₁, h₂, hmixed, report, report₁, hreport, hreport₁, hhistory⟩

end Network

end Catchment
