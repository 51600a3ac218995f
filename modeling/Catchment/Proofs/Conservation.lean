import Catchment.Proofs.Simulation

/-!
# `Catchment.Proofs.Conservation`: no water is lost, and none is made

All the rain that falls in a simulation is in rivers, under way, or let go. This
holds after any days in any order, and so for a run. The days of a run cover all
rain, so its final report accounts for the whole of it.

* `Underway.water_steps`: the balance of any days.
* `sum_rainfall_firstDays`: the days of a run cover all rain.
* `Network.water_is_conserved`: the balance of a network that a text declares.
-/

set_option autoImplicit false

namespace Catchment

variable {s : Simulation Rat} {n : Network Rat}

namespace Simulation

/-- The balance of any days: what there is afterwards, with all that was let go, is what there was
before, with the rain of those days. -/
theorem Underway.water_steps (h : s.Underway n) (days : List Int) :
    (s.steps n days).network.stored + (s.steps n days).network.inTransit
        + (s.steps n days).simulation.released
      = n.stored + n.inTransit + s.released + (days.map n.rainfall).sum := by
  -- The induction is on the days. `Underway` carries it, so that every day can be balanced.
  induction days generalizing s n with
  | nil =>
    show n.stored + n.inTransit + s.released = _
    rw [List.map_nil, List.sum_nil, add_zero]
  | cons day rest ih =>
    have hplan : (n.day s.storm s.share day).network.plan = n.plan := Network.plan_day
    -- The days that follow have the rain of the same plan.
    have hrain : (n.day s.storm s.share day).network.rainfall = n.rainfall :=
      funext fun _ => Network.rainfall_eq_of_plan_eq hplan
    have hday : (n.day s.storm s.share day).network.stored
        + (n.day s.storm s.share day).network.inTransit
        + (n.day s.storm s.share day).released.weigh (fun _ x => x)
          = n.stored + n.inTransit + n.rainfall day := h.atRest.water_day h.wellFormed h.all
    have hrest := ih (h.record day)
    simp only [Simulation.steps, h.step_eq]
    rw [hrest, h.released_record, hrain, List.map_cons, List.sum_cons]
    linarith

/-- At the start nothing has been let go. -/
theorem released_start (settings : Settings Rat) (share : Rat) (n : Network Rat) :
    (start settings share n).released = 0 := by
  rw [released, Amount.total_eq_sum, Table.sum_values_map, start, Table.weigh_map]
  exact List.sum_eq_zero fun x hx => by
    obtain ⟨e, -, rfl⟩ := List.mem_map.mp hx
    rfl

end Simulation

/-! ### The rain of a whole run -/

/-- The rain of the first days of a river is all of its rain, if there are days enough. -/
private theorem sum_getD_range (xs : List Rat) {k : Nat} (hk : xs.length ≤ k) :
    ((List.range k).map fun i => xs[i]?.getD 0).sum = xs.sum := by
  -- The induction is on the record of the rain.
  induction xs generalizing k with
  | nil => simp
  | cons x xs ih =>
    obtain ⟨k, rfl⟩ : ∃ j, k = j + 1 := ⟨k - 1, by simp at hk; omega⟩
    have hrest := ih (Nat.le_of_succ_le_succ hk)
    simp [List.range_succ_eq_map, Function.comp_def, hrest]

/-- The rain of the days adds up to all rain on a river, once no day with rain is left out. -/
theorem River.sum_rainOn (r : River Rat) {k : Nat} (hk : r.rain.length ≤ k) :
    ((List.range' 1 k).map fun (d : Nat) => r.rainOn d).sum = r.totalRain := by
  have hday : ∀ i : Nat, r.rainOn ((1 + i : Nat) : Int) = r.rain[i]?.getD 0 := by
    intro i
    rw [rainOn, if_pos (by omega)]
    congr 2
    omega
  rw [totalRain, Amount.total_eq_sum, ← sum_getD_range r.rain hk, List.range'_eq_map_range,
    List.map_map]
  exact congrArg List.sum (List.map_congr_left fun i _ => hday i)

namespace Network

/-- No river has rain after the last day of a run. -/
theorem length_rain_le_lastDay {r : River Rat} (hr : r ∈ n.rivers.values) :
    r.rain.length ≤ n.lastDay := by
  have hmem : r.rain.length ∈ n.rivers.values.map (·.rain.length) :=
    List.mem_map.mpr ⟨r, hr, rfl⟩
  rw [lastDay, List.foldl_max]
  exact le_max_of_le_right (le_max_of_le_right (List.le_max?_getD_of_mem hmem))

/-- The days of a run cover all rain. -/
theorem sum_rainfall_firstDays (n : Network Rat) :
    ((List.range' 1 n.lastDay).map fun (d : Nat) => n.rainfall d).sum = n.totalRain := by
  simp only [rainfall, totalRain, Amount.total_eq_sum]
  rw [sum_map_sum_comm]
  refine congrArg List.sum (List.map_congr_left fun r hr => ?_)
  exact r.sum_rainOn (length_rain_le_lastDay hr)

/-- The network that a text declares may be taken through any days, in any order: none of them
fails, and all that is in rivers, under way, or let go afterwards is the rain of those days. A run
that comes to its end accounts for all rain, and it does where every river has a capacity. -/
theorem water_is_conserved {text : String} (h : ofText? text = some n) (settings : Settings Rat)
    (share : Rat) :
    (∀ days : List Int,
      let reached := (Simulation.start settings share n).steps n days
      reached.error = none ∧
        reached.network.stored + reached.network.inTransit + reached.simulation.released
          = (days.map n.rainfall).sum) ∧
    (n.withoutCapacity = [] → ((Simulation.start settings share n).run n).2.isSome) ∧
    ∀ report, ((Simulation.start settings share n).run n).2 = some report →
      report.volumes.values.sum + report.inTransit
          + (report.releases.values.map List.sum).sum = n.totalRain := by
  have hfresh : n.Fresh (0 ≤ ·) := fresh_of_text h
  have hunderway : (Simulation.start settings share n).Underway n :=
    Simulation.underway_start settings share hfresh
  have hdays : ∀ days : List Int,
      ((Simulation.start settings share n).steps n days).network.stored
        + ((Simulation.start settings share n).steps n days).network.inTransit
        + ((Simulation.start settings share n).steps n days).simulation.released
          = (days.map n.rainfall).sum := by
    intro days
    -- Before the first day there is no water anywhere, and nothing has been let go.
    have hdry : n.stored = 0 ∧ n.inTransit = 0 := by
      rw [← hfresh.plan_eq]
      exact ⟨stored_plan, inTransit_plan⟩
    rw [hunderway.water_steps, hdry.1, hdry.2, Simulation.released_start, add_zero, add_zero,
      zero_add]
  refine ⟨fun days => ⟨(hunderway.steps days).1, hdays days⟩, fun hcapacity => ?_,
    fun report hreport => ?_⟩
  · rw [Simulation.run_eq hunderway.keys hcapacity]
    rfl
  · -- A run is the days from the first to the last, and these cover all rain.
    have hcapacity : n.withoutCapacity = [] := Simulation.withoutCapacity_of_report hreport
    rw [Simulation.run_eq hunderway.keys hcapacity] at hreport
    obtain ⟨hnetwork, hsimulation, -⟩ := Simulation.steps_firstDays hunderway.keys n.lastDay
    have hbalance := hdays ((List.range' 1 n.lastDay).map fun (d : Nat) => (d : Int))
    rw [hnetwork, hsimulation, List.map_map] at hbalance
    rw [← n.sum_rainfall_firstDays]
    cases hreport
    refine Eq.trans ?_ hbalance
    simp only [stored, Simulation.released, Amount.total_eq_sum, Simulation.finish]
    congr 4
    exact funext fun xs => (Amount.total_eq_sum xs).symm

/-- A river that feeds a dam, with rain on both, 44 in all: a run accounts for it. -/
theorem water_is_conserved_reservoir :
    ∃ (n : Network Rat) (report : RunReport Rat), ofText? reservoirText = some n ∧
      ((Simulation.start .default (9 / 10) n).run n).2 = some report ∧
      report.volumes.values.sum + report.inTransit
          + (report.releases.values.map List.sum).sum = 44 := by
  have hdeclared : (ofText? reservoirText).map
      (fun n : Network Rat => (n.withoutCapacity, n.totalRain)) = some ([], 44) := by
    decide +kernel
  obtain ⟨n, hn, hfacts⟩ := Option.map_eq_some_iff.mp hdeclared
  obtain ⟨hcapacity, hrain⟩ := Prod.mk.inj hfacts
  obtain ⟨-, hends, hreport⟩ := water_is_conserved hn .default (9 / 10)
  obtain ⟨report, h⟩ := Option.isSome_iff_exists.mp (hends hcapacity)
  exact ⟨n, report, hn, h, (hreport report h).trans hrain⟩

end Network

end Catchment
