import Mathlib.Algebra.BigOperators.Intervals
import Mathlib.Algebra.BigOperators.Ring.Finset
import Mathlib.Analysis.SpecialFunctions.Pow.Real
import Catchment.Proofs.Amount.Real
import Catchment.Proofs.Day.Locality
import Catchment.Proofs.Day.Yield
import Catchment.Proofs.Simulation

/-!
# `Catchment.Proofs.Headwater`: how a river drains that gets nothing but rain

A headwater has no dam, and no connection leads to it. So a day only adds its rain and takes
what it gives, and what it gives is told from how often it is a source. How much the other
sources of a connection hold makes no difference, nor does it matter whether a connection is
passed over, which happens only where all of its sources are dry.

The share of a day is chosen so that a thousandth is left when the days of outflow are over.
It is no rational number unless these are three, so all of this is told in any ordered field.

* `Network.Headwater`: a river of which this is so.
* `Headwater.get?_rivers_day`, `Headwater.headwater_day`: a day of a headwater.
* `Network.dailyShare_iff`: in the reals, every network has its share.
* `headwater_drains`: a headwater on any day.
-/

set_option autoImplicit false

namespace Catchment

namespace Network

section

variable {α : Type} [Amount α] {rule : StormRule α} {share : α} {day : Int} {n m : Network α}
  {name : String}

/-- A river without a dam, to which no connection leads, and for which nothing waits. -/
structure Headwater (n : Network α) (name : String) : Prop where
  dam : name ∉ n.dams.keys
  destinations : ∀ c ∈ n.flows, name ∉ c.destinations
  waiting : ∀ c ∈ n.flows, name ∉ c.waiting.keys

/-- How often a river is a source of any connection. -/
def timesSource (n : Network α) (name : String) : Nat := (n.flows.map (·.sources.count name)).sum

/-- How often a river is a source is declared. -/
theorem timesSource_plan : n.plan.timesSource name = n.timesSource name := by
  rw [timesSource, plan, List.map_map]
  rfl

/-- A river is a source as often in networks that are declared in the same way. -/
theorem timesSource_of_plan_eq (h : m.plan = n.plan) :
    m.timesSource name = n.timesSource name := by
  rw [← timesSource_plan, h, timesSource_plan]

/-- No connection comes to lead to a headwater. -/
theorem Headwater.destinations_of_plan_eq (hn : n.Headwater name) (h : m.plan = n.plan) :
    ∀ c ∈ m.flows, name ∉ c.destinations := by
  intro c hc
  obtain ⟨c', hc', hsame⟩ := exists_connection_of_plan_eq h hc
  have hdestinations : c'.destinations = c.destinations :=
    (congrArg Connection.destinations hsame :)
  exact hdestinations ▸ hn.destinations c' hc'

/-- A river to which nothing leads is such a river when the outflow begins. -/
theorem Headwater.atOutflow (hn : n.Headwater name) : (n.atOutflow rule day).Headwater name := by
  refine ⟨?_, hn.destinations_of_plan_eq plan_atOutflow, ?_⟩
  · rw [keys_dams_of_plan_eq plan_atOutflow]
    exact hn.dam
  · unfold Network.atOutflow arrivalsOn
    split
    · intro c hc
      obtain ⟨c', -, rfl⟩ := List.mem_map.mp hc
      exact List.not_mem_nil
    · exact hn.waiting

/-- A headwater is one after a day, too. -/
theorem Headwater.headwater_day (hn : n.Headwater name) :
    (n.day rule share day).network.Headwater name := by
  have hmidday : (n.atOutflow rule day).Headwater name := hn.atOutflow
  refine ⟨?_, hn.destinations_of_plan_eq plan_day, ?_⟩
  · rw [keys_dams_of_plan_eq plan_day]
    exact hn.dam
  · show ∀ c ∈ (n.atEvening rule share day).flows, name ∉ c.waiting.keys
    unfold atEvening outflowOn
    split
    · intro c hc hname
      obtain ⟨c', hc', rfl⟩ := List.mem_map.mp hc
      exact (mem_keys_waiting_carry hname).elim (hmidday.waiting c' hc')
        (hmidday.destinations c' hc')
    · exact hmidday.waiting

/-- A river to which nothing leads stays such a river through the days of outflow. -/
theorem Headwater.afterDays (hn : n.Headwater name) (k : Nat) :
    (n.afterDays rule share k).Headwater name :=
  afterDays_induction (motive := fun m => m.Headwater name) hn (fun _ _ hm => hm.headwater_day) k

/-- Nothing arrives in a headwater. -/
theorem Headwater.get?_rivers_atOutflow (hn : n.Headwater name) {r : River α}
    (hr : n.rivers.get? name = some r) :
    (n.atOutflow rule day).rivers.get? name = some (r.takeRain day) := by
  have hrained : (n.takeRain day).rivers.get? name = some (r.takeRain day) :=
    get?_rivers_takeRain hr
  unfold Network.atOutflow arrivalsOn
  split
  · have hnone : ∀ a ∈ (n.takeRain day).arrivals, a.1 ≠ name := by
      intro a ha hname
      obtain ⟨c, hc, hmem⟩ := List.mem_flatMap.mp ha
      exact hn.waiting c hc (hname ▸ List.mem_map_of_mem hmem)
    exact (sameAt_settlement_of_none rule day _ hnone).river.trans hrained
  · exact hrained

end

section

variable {K : Type} [Field K]

/-- What a headwater holds after some days, one after the other, given the rain of each day, the
part that is left after a day with outflow, and the number of such days. -/
def headwaterVolume (rain : Nat → K) (rest : K) (outflowDays : Nat) : Nat → K
  | 0 => 0
  | d + 1 => (headwaterVolume rain rest outflowDays d + rain (d + 1))
      * if d + 1 ≤ outflowDays then rest else 1

/-- The rain of each day is left in part, the less the longer ago it is. -/
theorem headwaterVolume_of_le {rain : Nat → K} {rest : K} {outflowDays d : Nat}
    (h : d ≤ outflowDays) : headwaterVolume rain rest outflowDays d
      = ∑ j ∈ Finset.Icc 1 d, rain j * rest ^ (d - j + 1) := by
  induction d with
  | zero => rfl
  | succ d ih =>
    have hstep : ∀ j ∈ Finset.Icc 1 d,
        rain j * rest ^ (d - j + 1) * rest = rain j * rest ^ (d + 1 - j + 1) := by
      intro j hj
      have hle : j ≤ d := (Finset.mem_Icc.mp hj).2
      rw [mul_assoc, ← pow_succ, Nat.succ_sub hle]
    rw [headwaterVolume, ih (Nat.le_of_succ_le h), if_pos h, Finset.sum_Icc_succ_top (by omega),
      add_mul, Finset.sum_mul, Finset.sum_congr rfl hstep, Nat.sub_self, zero_add, pow_one]

/-- After the days of outflow, all rain is left. -/
theorem headwaterVolume_of_ge {rain : Nat → K} {rest : K} {outflowDays d : Nat}
    (h : outflowDays ≤ d) : headwaterVolume rain rest outflowDays d
      = headwaterVolume rain rest outflowDays outflowDays
        + ∑ j ∈ Finset.Icc (outflowDays + 1) d, rain j := by
  induction d, h using Nat.le_induction with
  | base => simp
  | succ d hd ih =>
    rw [headwaterVolume, ih, if_neg (by omega), mul_one, Finset.sum_Icc_succ_top (by omega),
      add_assoc]

end

section

variable {K : Type} [Field K] [LinearOrder K] [IsStrictOrderedRing K] [Amount.Exact K]
  {rule : StormRule K} {share : K} {day : Int} {n : Network K} {name : String} {r : River K}

/-- The part of a river that is left after a day with outflow. -/
def remainder (share : K) (n : Network K) (name : String) : K :=
  max (1 - n.timesSource name * share) 0

omit [IsStrictOrderedRing K] in
/-- The part of its water with which the outflow leaves a river is declared. -/
theorem remainder_of_plan_eq {m : Network K} (h : m.plan = n.plan) :
    m.remainder share name = n.remainder share name := by
  rw [remainder, timesSource_of_plan_eq h, remainder]

/-- What a river keeps at the outflow is told from how often it is a source, since every
connection leads somewhere. -/
theorem left_draws_of_wellFormed (hwf : n.WellFormed) (hv : n.Nonneg) (hshare : 0 < share)
    (hr : n.rivers.get? name = some r) :
    Volumes.left (n.draws share) name r.volume = r.volume * n.remainder share name := by
  have hall : n.flows.filter (·.destinations ≠ []) = n.flows :=
    List.filter_eq_self.mpr fun c hc => decide_eq_true (hwf.joins c hc).destinations_ne
  have hasked := Volumes.asked_filterMap_draw? (fun {_ _} => hv.volume_nonneg) hshare
    (get?_volumes_of hr) n.flows
  rw [hall] at hasked
  exact Volumes.left_eq_mul_max hshare (hv hr) hasked

/-- A day of a headwater: it gets the rain of the day, and then keeps a part of what it holds,
unless the days of outflow are over. -/
theorem Headwater.get?_rivers_day (hn : n.Headwater name) (hwf : n.WellFormed) (hv : n.Nonneg)
    (hshare : 0 < share) (hr : n.rivers.get? name = some r) (hrain : 0 ≤ r.rainOn day) :
    (n.day rule share day).network.rivers.get? name = some
      { r with volume := (r.volume + r.rainOn day)
          * if day ≤ n.outflowDays then n.remainder share name else 1 } := by
  have hplan : (n.atOutflow rule day).plan = n.plan := plan_atOutflow
  have hrained : (n.atOutflow rule day).rivers.get? name = some (r.takeRain day) :=
    hn.get?_rivers_atOutflow hr
  have hvolume : (r.takeRain day).volume = r.volume + r.rainOn day := River.volume_takeRain hrain
  -- Rain, outflow and levels change nothing but the volume.
  have hbed : ∀ v, { r.takeRain day with volume := v } = { r with volume := v } := fun v =>
    congrArg (fun b : River K => { b with volume := v }) River.bed_takeRain
  have hevening : (n.atEvening rule share day).rivers.get? name = some
      { r with volume := (r.volume + r.rainOn day)
          * if day ≤ n.outflowDays then n.remainder share name else 1 } := by
    unfold atEvening outflowOn
    rw [outflowDays_of_plan_eq hplan]
    split
    · dsimp only [schedule]
      rw [Table.get?_mapWithKey, hrained, Option.map_some, hbed,
        left_draws_of_wellFormed (hwf.of_plan_eq hplan) (hv.atOutflow rule) hshare hrained,
        hvolume,
        remainder_of_plan_eq hplan]
    · rw [hrained, mul_one, ← hvolume, ← hbed]
  have hnodam : (n.atEvening rule share day).dams.get? name = none := by
    rw [Table.get?_eq_none_iff, keys_dams_of_plan_eq plan_atEvening]
    exact hn.dam
  show (n.atEvening rule share day).level.rivers.get? name = _
  rw [get?_rivers_level_of_none hnodam, hevening]

/-! ### Day after day -/

/-- A headwater after the first days of a run, whatever the rest of the network does. -/
theorem Headwater.get?_rivers_afterDays (hn : n.Headwater name) (hwf : n.WellFormed)
    (hv : n.Nonneg) (hshare : 0 < share) (hr : n.rivers.get? name = some r) (hdry : r.volume = 0)
    (hrain : ∀ x ∈ r.rain, 0 ≤ x) (k : Nat) :
    (n.afterDays rule share k).rivers.get? name = some { r with
      volume := headwaterVolume (fun d => r.rainOn d)
        (n.remainder share name) n.outflowDays k } := by
  -- The induction is on the days.
  induction k with
  | zero =>
    show n.rivers.get? name = some ⟨r.name, r.rain, 0⟩
    rw [← hdry]
    exact hr
  | succ k ih =>
    have hplan : (n.afterDays rule share k).plan = n.plan := plan_afterDays rule share n k
    have hday : (n.afterDays rule share (k + 1)).rivers.get? name = some _ :=
      (hn.afterDays k).get?_rivers_day (hwf.of_plan_eq hplan) (hv.afterDays k) hshare ih
        (River.rainOn_nonneg hrain)
    rw [hday, outflowDays_of_plan_eq hplan, remainder_of_plan_eq hplan, headwaterVolume]
    simp only [Nat.cast_le]
    rfl

end

/-- In the reals, every network that a text declares has its share: a thousandth of the water is
left after the days of outflow for one share, and it is the one that the formula gives. -/
theorem dailyShare_iff {text : String} {n : Network ℝ} (h : ofText? text = some n) (share : ℝ) :
    (0 < share ∧ share < 1) ∧ (1 - share) ^ n.outflowDays = 1 / 1000
      ↔ share = 1 - (1 / 1000 : ℝ) ^ (1 / (n.outflowDays : ℝ)) := by
  have hfresh : n.Fresh (0 ≤ ·) := fresh_of_text h
  have hdays : n.outflowDays ≠ 0 := by
    have hshortest : 3 ≤ n.outflowDays := hfresh.wellFormed.outflowDays
    omega
  have hroot : ((1 / 1000 : ℝ) ^ (1 / (n.outflowDays : ℝ))) ^ n.outflowDays = 1 / 1000 := by
    rw [one_div (n.outflowDays : ℝ)]
    exact Real.rpow_inv_natCast_pow (by norm_num) hdays
  have hpos : 0 < (1 / 1000 : ℝ) ^ (1 / (n.outflowDays : ℝ)) :=
    Real.rpow_pos_of_pos (by norm_num) _
  constructor
  · rintro ⟨⟨-, hlt⟩, hresidue⟩
    have hsame : 1 - share = (1 / 1000 : ℝ) ^ (1 / (n.outflowDays : ℝ)) :=
      (pow_left_inj₀ (sub_nonneg.mpr hlt.le) hpos.le hdays).mp (hresidue.trans hroot.symm)
    rw [← hsame, sub_sub_cancel]
  · rintro rfl
    refine ⟨⟨sub_pos.mpr ?_, sub_lt_self _ hpos⟩, by rw [sub_sub_cancel, hroot]⟩
    exact Real.rpow_lt_one (by norm_num) (by norm_num) (by positivity)

variable {K : Type} [Field K] [LinearOrder K] [IsStrictOrderedRing K] [Amount.Exact K] {share : K}
  {n : Network K} {name : String} {r : River K}

/-- A river of a network that a text declares, without a dam, and to which no connection leads.
Stepping through the days from the first on does not fail. While there is outflow, the rain of
each day is left in part: once for every day since, the river gives the share of what it holds for
every time it is a source of any connection, or it runs dry. Afterwards all rain is left. None of
this depends on the rest of the network. So if the river is a source once, a thousandth of what
rains on the first day is left when the days of outflow are over. -/
theorem headwater_drains {text : String} (h : ofText? text = some n) (settings : Settings K)
    (hshare : 0 < share ∧ share < 1) (hresidue : (1 - share) ^ n.outflowDays = 1 / 1000)
    (hr : n.rivers.get? name = some r) (hdam : n.dams.get? name = none)
    (hspring : ∀ c ∈ n.flows, name ∉ c.destinations) :
    let times : Nat := (n.flows.map (·.sources.count name)).sum
    let rest : K := max (1 - times * share) 0
    let after (d : Nat) : Progress K :=
      (Simulation.start settings share n).steps n
        ((List.range' 1 d).map fun (d : Nat) => (d : Int))
    let volume (d : Nat) : Option K := (after d).network.volumes.get? name
    (∀ d, (after d).error = none) ∧
      (∀ d ≤ n.outflowDays,
        volume d = some (∑ j ∈ Finset.Icc 1 d, r.rainOn j * rest ^ (d - j + 1))) ∧
      (∀ d, n.outflowDays < d → volume d
        = (volume n.outflowDays).map (· + ∑ j ∈ Finset.Icc (n.outflowDays + 1) d, r.rainOn j)) ∧
      (times = 1 → (∀ j : Nat, j ≠ 1 → r.rainOn j = 0) →
        ∀ d, n.outflowDays ≤ d → volume d = some (r.rainOn 1 / 1000)) := by
  intro times rest after volume
  have hfresh : n.Fresh (0 ≤ ·) := fresh_of_text h
  have hwf : n.WellFormed := hfresh.wellFormed
  have hdry : ∀ {k q}, n.rivers.get? k = some q → q.volume = 0 :=
    fun hq => volume_eq_zero_of_plan_eq hfresh.plan_eq hq
  have hhead : n.Headwater name := by
    refine ⟨(Table.get?_eq_none_iff _ _).mp hdam, hspring, fun c hc hname => ?_⟩
    rw [waiting_eq_empty_of_plan_eq hfresh.plan_eq hc] at hname
    cases hname
  have hvolume : ∀ d, volume d
      = some (headwaterVolume (fun j => r.rainOn j) rest n.outflowDays d) := by
    intro d
    have hnetwork : (after d).network = n.afterDays settings.storm share d :=
      (Simulation.steps_firstDays (Table.keys_map _ _) d).1
    simp only [volume]
    rw [hnetwork, get?_volumes,
      hhead.get?_rivers_afterDays hwf (fun _ _ hq => (hdry hq).ge) hshare.1
      hr (hdry hr) (hfresh.all.rain hr) d]
    rfl
  refine ⟨fun d => (Simulation.steps_firstDays (Table.keys_map _ _) d).2.2, fun d hd => ?_,
    fun d hd => ?_, fun htimes hrain d hd => ?_⟩
  · rw [hvolume, headwaterVolume_of_le hd]
  · rw [hvolume, hvolume, headwaterVolume_of_ge hd.le, Option.map_some]
  · -- Only the rain of the first day adds anything.
    have hfirst : 1 ≤ n.outflowDays := le_trans (by decide) hwf.outflowDays
    have hrest : rest = 1 - share := by
      simp only [rest, htimes, Nat.cast_one, one_mul]
      exact max_eq_left (sub_nonneg.mpr hshare.2.le)
    have hlater : ∑ j ∈ Finset.Icc (n.outflowDays + 1) d, r.rainOn (j : Int) = 0 := by
      refine Finset.sum_eq_zero fun j hj => hrain j ?_
      have := (Finset.mem_Icc.mp hj).1
      omega
    have honce : ∑ j ∈ Finset.Icc 1 n.outflowDays,
        r.rainOn (j : Int) * rest ^ (n.outflowDays - j + 1) = r.rainOn 1 / 1000 := by
      rw [Finset.sum_eq_single 1 (fun j _ hj => by rw [hrain j hj, zero_mul])
        fun hmem =>
          absurd (Finset.mem_Icc.mpr ⟨le_refl 1, hfirst⟩) hmem, Nat.sub_add_cancel hfirst,
        hrest, hresidue, Nat.cast_one, mul_one_div]
    rw [hvolume, headwaterVolume_of_ge hd, headwaterVolume_of_le (le_refl _), hlater,
      add_zero, honce]

/-- With three days of outflow the share is nine tenths. A thousand millimetres of rain on a are
down to one when they are over, though the other source of its connection is asked twice and runs
dry. -/
theorem headwater_drains_merged :
    let text :=
      "River a = 1000mm; River b = 5mm; River c = 0mm; Flow f = a + b -> c; Flow g = b -> c;"
    let n : Network Rat :=
      { (empty : Network Rat) with
        rivers := ⟨[("a", ⟨"a", [1000], 0⟩), ("b", ⟨"b", [5], 0⟩),
          ("c", ⟨"c", [0], 0⟩)], by decide⟩
        flows := [⟨some "f", ["a", "b"], ["c"], ∅⟩, ⟨some "g", ["b"], ["c"], ∅⟩] }
    let after (d : Nat) : Progress Rat :=
      (Simulation.start .default (9 / 10) n).steps n
        ((List.range' 1 d).map fun (d : Nat) => (d : Int))
    ofText? text = some n ∧ (1 - 9 / 10 : Rat) ^ n.outflowDays = 1 / 1000 ∧
      (after 1).network.volumes.get? "a" = some 100 ∧
      ∀ d, 3 ≤ d → (after d).network.volumes.get? "a" = some 1 := by
  intro text n after
  have htext : ofText? text = some n := by decide +kernel
  have hresidue : (1 - 9 / 10 : Rat) ^ n.outflowDays = 1 / 1000 := by decide +kernel
  have hrain : ∀ j : Nat, j ≠ 1 → River.rainOn ⟨"a", [1000], 0⟩ j = (0 : Rat) := by
    intro j hj
    rcases j with _ | _ | j
    · rfl
    · exact absurd rfl hj
    · simp [River.rainOn]
  have hr : n.rivers.get? "a" = some ⟨"a", [1000], 0⟩ := by decide +kernel
  have hdam : n.dams.get? "a" = none := by decide +kernel
  obtain ⟨-, hearly, -, hlate⟩ :=
    headwater_drains htext .default (by decide +kernel) hresidue hr hdam (by decide +kernel)
  refine ⟨htext, hresidue, ?_, fun d hd => ?_⟩
  · refine (hearly 1 (by decide)).trans ?_
    decide +kernel
  · refine (hlate (by decide +kernel) hrain d hd).trans ?_
    decide +kernel

end Network

end Catchment
