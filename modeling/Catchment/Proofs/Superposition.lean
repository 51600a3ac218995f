import Catchment.Proofs.Day.Linear
import Catchment.Proofs.Simulation

/-!
# `Catchment.Proofs.Superposition`: two rains at a time

Where there are no dams, what one rain does is not changed by another. A network that
has the rain of two others has, after any number of days, in every river and in every
connection the water of both. A day takes fixed parts of what there is, so it keeps
this; and before the first day there is no water anywhere.

* `Network.withRain`: a network with the rain that is given.
* `Network.IsSum`: a network with the water of two others.
* `IsSum.isSum_day`: a day keeps it.
* `waters_of_two_rains_add_up`: the days from the first on keep it.
-/

set_option autoImplicit false

namespace Catchment

namespace Network

/-- The network with the rain that is given, river by river. -/
def withRain (rain : String → List Rat) (n : Network Rat) : Network Rat :=
  { n with rivers := n.rivers.mapWithKey fun name r => { r with rain := rain name } }

/-- Two networks with the same rivers and connections, and as many days of outflow. -/
structure Alike (m n : Network Rat) : Prop where
  rivers : m.rivers.keys = n.rivers.keys
  flows : m.flows.map Connection.idle = n.flows.map Connection.idle
  outflowDays : m.outflowDays = n.outflowDays

/-- A network that is like two others and has the water of both: in every river, and in every
connection for every destination. -/
structure IsSum (n n₁ n₂ : Network Rat) : Prop where
  alike₁ : n₁.Alike n
  alike₂ : n₂.Alike n
  volume : ∀ name ∈ n.rivers.keys, n.volumeOf name = n₁.volumeOf name + n₂.volumeOf name
  waiting : ∀ i name, n.waitingAt i name = n₁.waitingAt i name + n₂.waitingAt i name

variable {rule : StormRule Rat} {share : Rat} {day : Int} {n n₁ n₂ m : Network Rat}
  {rain rain₁ rain₂ : String → List Rat}

/-- Whether networks are alike does not depend on their water. -/
theorem Alike.of_plan_eq {m' n' : Network Rat} (h : m.Alike n) (hm : m'.plan = m.plan)
    (hn : n'.plan = n.plan) : m'.Alike n' :=
  ⟨(keys_rivers_of_plan_eq hm).trans (h.rivers.trans (keys_rivers_of_plan_eq hn).symm),
    (congrArg Network.flows hm).trans (h.flows.trans (congrArg Network.flows hn).symm),
    (outflowDays_of_plan_eq hm).trans (h.outflowDays.trans (outflowDays_of_plan_eq hn).symm)⟩

/-- Networks that are alike have as many connections. -/
theorem Alike.length_flows (h : m.Alike n) : m.flows.length = n.flows.length := by
  simpa using congrArg List.length h.flows

/-- When the outflow begins, a network with the water of two others has that of both, if it has
their rain. -/
theorem IsSum.volumeOf_atOutflow (h : n.IsSum n₁ n₂) (hn : n.Undammed) (hn₁ : n₁.Undammed)
    (hn₂ : n₂.Undammed)
    (hrain : ∀ name, n.rainOf day name = n₁.rainOf day name + n₂.rainOf day name) {name : String}
    (hname : name ∈ n.rivers.keys) :
    (n.atOutflow rule day).volumeOf name
      = (n₁.atOutflow rule day).volumeOf name + (n₂.atOutflow rule day).volumeOf name := by
  rw [hn.volumeOf_atOutflow hname, hn₁.volumeOf_atOutflow (h.alike₁.rivers ▸ hname),
    hn₂.volumeOf_atOutflow (h.alike₂.rivers ▸ hname), h.alike₁.length_flows,
    h.alike₂.length_flows,
    h.volume name hname, hrain]
  split
  · simp only [h.waiting, Finset.sum_add_distrib]
    ring
  · ring

/-- A day keeps it that a network has the water of two others, if it has their rain. -/
theorem IsSum.isSum_day (h : n.IsSum n₁ n₂) (hn : n.Undammed) (hn₁ : n₁.Undammed)
    (hn₂ : n₂.Undammed) (hshare : 0 < share)
    (hrain : ∀ name, n.rainOf day name = n₁.rainOf day name + n₂.rainOf day name) :
    (n.day rule share day).network.IsSum (n₁.day rule share day).network
      (n₂.day rule share day).network := by
  have hkeys : (n.day rule share day).network.rivers.keys = n.rivers.keys :=
    keys_rivers_of_plan_eq plan_day
  have hmidday : ∀ name ∈ n.rivers.keys, (n.atOutflow rule day).volumeOf name
      = (n₁.atOutflow rule day).volumeOf name + (n₂.atOutflow rule day).volumeOf name :=
    fun name hname => h.volumeOf_atOutflow hn hn₁ hn₂ hrain hname
  refine ⟨h.alike₁.of_plan_eq plan_day plan_day, h.alike₂.of_plan_eq plan_day plan_day,
    fun name hname => ?_, fun i name => ?_⟩
  · -- The part that a river keeps is the same in all three.
    rw [hkeys] at hname
    rw [hn.volumeOf_day hshare hname, hn₁.volumeOf_day hshare (h.alike₁.rivers ▸ hname),
      hn₂.volumeOf_day hshare (h.alike₂.rivers ▸ hname), h.alike₁.outflowDays,
      h.alike₂.outflowDays,
      timesAsked_of_flows_eq h.alike₁.flows, timesAsked_of_flows_eq h.alike₂.flows,
      hmidday name hname, add_mul]
  · -- So are the parts that leave by a connection.
    have hsum : (n.rivers.keys.map fun source =>
          n.conveyed share i source name * (n.atOutflow rule day).volumeOf source).sum
        = (n.rivers.keys.map fun source =>
            n.conveyed share i source name * (n₁.atOutflow rule day).volumeOf source).sum
          + (n.rivers.keys.map fun source =>
            n.conveyed share i source name * (n₂.atOutflow rule day).volumeOf source).sum := by
      rw [← List.sum_map_add]
      refine congrArg List.sum (List.map_congr_left fun source hsource => ?_)
      rw [hmidday source hsource, mul_add]
    rw [hn.waitingAt_day hshare, hn₁.waitingAt_day hshare, hn₂.waitingAt_day hshare,
      waitingAt_atOutflow, waitingAt_atOutflow, waitingAt_atOutflow, h.alike₁.outflowDays,
      h.alike₂.outflowDays, h.alike₁.rivers, h.alike₂.rivers]
    simp only [conveyed_of_flows_eq h.alike₁.flows, conveyed_of_flows_eq h.alike₂.flows, hsum,
      h.waiting]
    split_ifs <;> ring

/-- The days from the first on keep it that a network has the water of two others. -/
theorem IsSum.afterDays (h : n.IsSum n₁ n₂) (hn : n.Undammed) (hn₁ : n₁.Undammed)
    (hn₂ : n₂.Undammed) (hshare : 0 < share)
    (hrain : ∀ day name, n.rainOf day name = n₁.rainOf day name + n₂.rainOf day name) (k : Nat) :
    (n.afterDays rule share k).IsSum (n₁.afterDays rule share k) (n₂.afterDays rule share k) := by
  have hundammed : ∀ {m : Network Rat}, m.Undammed → ∀ k, (m.afterDays rule share k).Undammed :=
    fun hm k => afterDays_induction hm (fun _ _ hm' => hm'.undammed_day hshare) k
  -- The induction is on the days. No day changes the rain, so on every day the one rain is the
  -- sum of the other two.
  induction k with
  | zero => exact h
  | succ k ih =>
    refine ih.isSum_day (hundammed hn k) (hundammed hn₁ k) (hundammed hn₂ k) hshare fun name => ?_
    rw [rainOf_of_plan_eq (plan_afterDays rule share n k),
      rainOf_of_plan_eq (plan_afterDays rule share n₁ k),
      rainOf_of_plan_eq (plan_afterDays rule share n₂ k), hrain]

/-! ### Before the first day -/

/-- Other rain leaves the rivers what they were by name. -/
theorem keys_rivers_withRain (rain : String → List Rat) (n : Network Rat) :
    (n.withRain rain).rivers.keys = n.rivers.keys := Table.keys_mapWithKey _ _

/-- Other rain brings no water to a network before its first day. -/
theorem plan_withRain_of_dry (hdry : n.plan = n) (rain : String → List Rat) :
    (n.withRain rain).plan = n.withRain rain := by
  obtain ⟨-, hdams, hflows⟩ := plan_eq_self_iff.mp hdry
  refine plan_eq_self_iff.mpr ⟨?_, hdams, hflows⟩
  dsimp only [withRain]
  rw [Table.map_mapWithKey]
  refine Table.mapWithKey_congr fun name r hr => ?_
  show (⟨r.name, rain name, 0⟩ : River Rat) = ⟨r.name, rain name, r.volume⟩
  rw [volume_eq_zero_of_plan_eq hdry hr]

/-- A network without dams and water is one with other rain, too, if that is not below nought. -/
theorem undammed_withRain (hdams : n.dams = ∅) (hdry : n.plan = n)
    (hrain : ∀ name, ∀ x ∈ rain name, 0 ≤ x) : (n.withRain rain).Undammed := by
  have hplan : (n.withRain rain).plan = n.withRain rain := plan_withRain_of_dry hdry rain
  refine ⟨by rw [withRain, hdams]; rfl, fun {name r} hr => ?_,
    fun name r hr => (volume_eq_zero_of_plan_eq hplan hr).ge, fun c hc {name x} hx => ?_⟩
  · obtain ⟨q, -, rfl⟩ := Option.map_eq_some_iff.mp ((Table.get?_mapWithKey _ _ _).symm.trans hr)
    exact hrain name
  · rw [waiting_eq_empty_of_plan_eq hplan hc] at hx
    cases hx

/-- Before the first day there is no water anywhere. -/
theorem water_eq_zero_of_dry (hdry : n.plan = n) :
    (∀ name, n.volumeOf name = 0) ∧ ∀ i name, n.waitingAt i name = 0 := by
  constructor
  · intro name
    rw [volumeOf, get?_volumes]
    cases hr : n.rivers.get? name with
    | none => rfl
    | some r => exact volume_eq_zero_of_plan_eq hdry hr
  · intro i name
    rw [waitingAt]
    cases hi : n.flows[i]? with
    | none => rfl
    | some c =>
      rw [Option.bind_some, waiting_eq_empty_of_plan_eq hdry (List.mem_of_getElem? hi)]
      rfl

/-- Before the first day, without any water, a network is the sum of itself twice, whatever the
rain. -/
theorem isSum_withRain (hdry : n.plan = n) (rain rain₁ rain₂ : String → List Rat) :
    (n.withRain rain).IsSum (n.withRain rain₁) (n.withRain rain₂) := by
  have halike : ∀ R R', (n.withRain R).Alike (n.withRain R') := fun R R' =>
    ⟨(keys_rivers_withRain R n).trans (keys_rivers_withRain R' n).symm, rfl, rfl⟩
  have hwater : ∀ R, (∀ name, (n.withRain R).volumeOf name = 0) ∧
      ∀ i name, (n.withRain R).waitingAt i name = 0 :=
    fun R => water_eq_zero_of_dry (plan_withRain_of_dry hdry R)
  refine ⟨halike _ _, halike _ _, fun name _ => ?_, fun i name => ?_⟩
  · rw [(hwater rain).1, (hwater rain₁).1, (hwater rain₂).1, add_zero]
  · rw [(hwater rain).2, (hwater rain₁).2, (hwater rain₂).2, add_zero]

/-- Where there is a rain of a day, it is what the list says. -/
theorem rainOf_withRain (rain : String → List Rat) (day : Int) {name : String}
    (hname : name ∈ n.rivers.keys) :
    (n.withRain rain).rainOf day name
      = if 1 ≤ day then (rain name)[(day - 1).toNat]?.getD 0 else 0 := by
  obtain ⟨r, hr⟩ := (n.rivers.mem_keys name).mp hname
  rw [rainOf, withRain, Table.get?_mapWithKey, hr]
  rfl

/-- Two rains on a network without dams do not meet. Stepping through the days from the first on,
with the rain of both and with either alone, does not fail, and every river holds what it holds
with the one and with the other, and so does every connection for every destination. A rain may be
shorter than the other: on the days that it does not say, there is none. -/
theorem waters_of_two_rains_add_up (hdams : n.dams = ∅) (hdry : n.plan = n) (hshare : 0 < share)
    (h₁ : ∀ name, ∀ x ∈ rain₁ name, 0 ≤ x) (h₂ : ∀ name, ∀ x ∈ rain₂ name, 0 ≤ x)
    (hsum : ∀ name (i : Nat),
      (rain name)[i]?.getD 0 = (rain₁ name)[i]?.getD 0 + (rain₂ name)[i]?.getD 0)
    (settings : Settings Rat) (k : Nat) :
    let after (rain : String → List Rat) : Progress Rat :=
      (Simulation.start settings share (n.withRain rain)).steps (n.withRain rain)
        ((List.range' 1 k).map fun (d : Nat) => (d : Int))
    (after rain).error = none ∧ (after rain₁).error = none ∧ (after rain₂).error = none ∧
      (after rain).network.IsSum (after rain₁).network (after rain₂).network := by
  intro after
  have hafter : ∀ R, (after R).network = (n.withRain R).afterDays settings.storm share k ∧
      (after R).error = none := by
    intro R
    have hsteps := Simulation.steps_firstDays (n := n.withRain R)
      (s := Simulation.start settings share (n.withRain R)) (Table.keys_map _ _) k
    exact ⟨hsteps.1, hsteps.2.2⟩
  -- A sum of what is not below nought is not below nought.
  have h : ∀ name, ∀ x ∈ rain name, 0 ≤ x := by
    intro name x hx
    obtain ⟨i, hi⟩ := List.mem_iff_getElem?.mp hx
    have hday :
        ∀ R : String → List Rat, (∀ name, ∀ x ∈ R name, 0 ≤ x) → 0 ≤ (R name)[i]?.getD 0 := by
      intro R hR
      cases hget : (R name)[i]? with
      | none => exact le_refl _
      | some y => exact hR name y (List.mem_of_getElem? hget)
    have hx' : (rain name)[i]?.getD 0 = x := by rw [hi, Option.getD_some]
    rw [← hx', hsum]
    exact add_nonneg (hday rain₁ h₁) (hday rain₂ h₂)
  have hrain : ∀ day name, (n.withRain rain).rainOf day name
      = (n.withRain rain₁).rainOf day name + (n.withRain rain₂).rainOf day name := by
    intro day name
    by_cases hname : name ∈ n.rivers.keys
    · rw [rainOf_withRain _ _ hname, rainOf_withRain _ _ hname, rainOf_withRain _ _ hname]
      split
      · exact hsum name _
      · rw [add_zero]
    · have hnone : ∀ R, (n.withRain R).rainOf day name = 0 := by
        intro R
        rw [rainOf, (Table.get?_eq_none_iff _ _).mpr (by rwa [keys_rivers_withRain])]
        rfl
      rw [hnone, hnone, hnone, add_zero]
  refine ⟨(hafter rain).2, (hafter rain₁).2, (hafter rain₂).2, ?_⟩
  rw [(hafter rain).1, (hafter rain₁).1, (hafter rain₂).1]
  exact (isSum_withRain hdry rain rain₁ rain₂).afterDays (undammed_withRain hdams hdry h)
    (undammed_withRain hdams hdry h₁) (undammed_withRain hdams hdry h₂) hshare hrain k

/-- It rains 4 on a on the first day, and 2 on a and 6 on b on the second. The river a is asked
for three fifths of its water twice, so it runs dry every day, and some of it comes to c by way of
b. -/
theorem waters_of_two_rains_add_up_detour :
    let n : Network Rat :=
      { empty with
        rivers := .ofList [("a", .dry "a"), ("b", .dry "b"), ("c", .dry "c")]
        flows := [.leg ["a"] ["b"], .leg ["a", "b"] ["c"]] }
    let early (name : String) : List Rat := if name = "a" then [4] else []
    let late (name : String) : List Rat :=
      if name = "a" then [0, 2] else if name = "b" then [0, 6] else []
    let both (name : String) : List Rat :=
      if name = "a" then [4, 2] else if name = "b" then [0, 6] else []
    let after (rain : String → List Rat) : Progress Rat :=
      (Simulation.start .default (3 / 5) (n.withRain rain)).steps (n.withRain rain) [1, 2]
    (after early).network.volumes.entries = [("a", 0), ("b", 4 / 5), ("c", 2)] ∧
      (after late).network.volumes.entries = [("a", 0), ("b", 12 / 5), ("c", 0)] ∧
      (after both).network.volumeOf "b" = 4 / 5 + 12 / 5 ∧
      (after both).network.waitingAt 1 "c" = 6 / 5 + 23 / 5 := by
  intro n early late both after
  have hearly : ∀ name, ∀ x ∈ early name, 0 ≤ x := by
    intro name
    show ∀ x ∈ (if name = "a" then [4] else []), (0 : Rat) ≤ x
    split <;> decide +kernel
  have hlate : ∀ name, ∀ x ∈ late name, 0 ≤ x := by
    intro name
    show ∀ x ∈ (if name = "a" then [0, 2] else if name = "b" then [0, 6] else []), (0 : Rat) ≤ x
    split
    · decide +kernel
    · split <;> decide +kernel
  have hboth : ∀ name (i : Nat),
      (both name)[i]?.getD 0 = (early name)[i]?.getD 0 + (late name)[i]?.getD 0 := by
    intro name i
    simp only [both, early, late]
    rcases i with _ | _ | i <;> split_ifs <;> simp
  have hshare : (0 : Rat) < 3 / 5 := by decide +kernel
  have hdams : n.dams = ∅ := by decide +kernel
  have hdry : n.plan = n := by decide +kernel
  obtain ⟨-, -, -, hsum⟩ :=
    waters_of_two_rains_add_up hdams hdry hshare hearly hlate hboth .default 2
  have hb : (after both).network.volumeOf "b" = _ := hsum.volume "b" (by decide +kernel)
  have hc : (after both).network.waitingAt 1 "c" = _ := hsum.waiting 1 "c"
  refine ⟨by decide +kernel, by decide +kernel, ?_, ?_⟩
  · rw [hb]
    decide +kernel
  · rw [hc]
    decide +kernel

end Network

end Catchment
