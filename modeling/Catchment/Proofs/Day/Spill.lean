import Catchment.Proofs.Network.Water

/-!
# `Catchment.Proofs.Day.Spill`: what spills is counted

At the end of a day every dam and its river come to one level, within the capacity
of the dam. A river comes down only by what spills, and what spills is recorded as
let go.

* `Dam.levelAt_add_spill`: the level and what spills make up the volume.
* `Sound.atRest_level`: afterwards the network is at rest.
* `stored_level_add_spilled`: what leaves the rivers is recorded.
-/

set_option autoImplicit false

namespace Catchment

namespace Dam

variable {d : Dam Rat} {volume : Rat}

/-- A dam comes to no level below nought, whatever its river holds. -/
theorem levelAt_nonneg {K : Type} [Field K] [LinearOrder K] [Amount.Exact K] {d : Dam K}
    {volume : K} : 0 ≤ d.levelAt volume := by
  rw [levelAt, Amount.larger_eq_max, Amount.zero_eq]
  exact le_max_left _ _

/-- A dam comes to no level above its capacity. -/
theorem levelAt_le (hcapacity : 0 ≤ d.capacity) : d.levelAt volume ≤ d.capacity := by
  rw [levelAt, Amount.larger_eq_max, Amount.smaller_eq_min]
  exact max_le hcapacity (min_le_left _ _)

/-- A dam comes to the level of its river, up to its capacity. -/
theorem levelAt_eq_min (hcapacity : 0 ≤ d.capacity) (h : 0 ≤ volume) :
    d.levelAt volume = min d.capacity volume := by
  rw [levelAt, Amount.larger_eq_max, Amount.smaller_eq_min, max_eq_right (le_min hcapacity h)]

/-- No less than nothing spills. -/
theorem spill_nonneg : 0 ≤ d.spill volume := by
  rw [spill, Amount.larger_eq_max]
  exact le_max_left _ _

/-- The level and what spills make up the volume. -/
theorem levelAt_add_spill (hcapacity : 0 ≤ d.capacity) (h : 0 ≤ volume) :
    d.levelAt volume + d.spill volume = volume := by
  rw [spill, Amount.larger_eq_max, levelAt_eq_min hcapacity h,
    max_eq_right (sub_nonneg.mpr (min_le_right _ _)), add_sub_cancel]

/-- Nothing spills if the river holds no more than the dam can. -/
theorem spill_of_le (h : 0 ≤ volume) (hfits : volume ≤ d.capacity) : d.spill volume = 0 := by
  rw [spill, Amount.larger_eq_max, levelAt_eq_min (h.trans hfits) h, min_eq_right hfits, sub_self,
    max_self]

end Dam

namespace Network

section

variable {α : Type} [Amount α] {n : Network α} {name : String} {d : Dam α}

/-- The volume that a river comes to: that of its dam, if it has one. -/
def volumeAt (n : Network α) (name : String) (volume : α) : α :=
  match n.dams.get? name with
  | some d => d.levelAt volume
  | none => volume

/-- What spills from a river. -/
def spillAt (n : Network α) (name : String) (volume : α) : α :=
  match n.dams.get? name with
  | some d => d.spill volume
  | none => 0

/-- The rivers once dams and rivers are at one level: only their water has changed. -/
theorem rivers_level (n : Network α) :
    n.level.rivers
      = n.rivers.mapWithKey fun name r => { r with volume := n.volumeAt name r.volume } := by
  dsimp only [level]
  refine Table.mapWithKey_congr fun name r _ => ?_
  unfold volumeAt
  cases n.dams.get? name <;> rfl

/-- A river without a dam stays as it is. -/
theorem get?_rivers_level_of_none (hd : n.dams.get? name = none) :
    n.level.rivers.get? name = n.rivers.get? name := by
  rw [rivers_level, Table.get?_mapWithKey]
  simp only [volumeAt, hd]
  exact Option.map_id'

/-- Bringing dams and rivers to one level changes nothing that was declared. -/
theorem plan_level (n : Network α) : n.level.plan = n.plan := by
  simp only [plan, rivers_level, Table.map_mapWithKey]
  have hdams : n.level.dams.map Dam.drained = n.dams.map Dam.drained := by
    rw [level, Table.map_mapWithKey, Table.map]
    refine Table.mapWithKey_congr fun name d _ => ?_
    cases n.rivers.get? name <;> rfl
  rw [hdams]
  rfl

/-- A dam comes to the level that goes with what its river holds. -/
theorem get?_dams_level {r : River α} (hr : n.rivers.get? name = some r) :
    n.level.dams.get? name
      = (n.dams.get? name).map fun d => { d with level := d.levelAt r.volume } := by
  rw [level, Table.get?_mapWithKey, hr]

/-- What is recorded for a dam grows by what spills. -/
theorem spilled_eq (hwf : n.WellFormed) {released : Table α}
    (hkeys : released.keys = n.dams.keys) :
    n.spilled released = released.mapWithKey fun name x =>
      x + n.spillAt name (((n.rivers.get? name).map River.volume).getD 0) := by
  refine Table.mapWithKey_congr fun name x hx => ?_
  have hname : name ∈ n.dams.keys := hkeys ▸ (released.mem_keys name).mpr ⟨x, hx⟩
  obtain ⟨d, hd⟩ := (n.dams.mem_keys name).mp hname
  obtain ⟨r, hr⟩ := (n.rivers.mem_keys name).mp (hwf.river_of_dam hname)
  simp only [hd, hr, spillAt, Option.map_some, Option.getD_some]

end

/-- No river holds less than nothing when the dams are at one level with theirs. -/
theorem Nonneg.level {K : Type} [Field K] [LinearOrder K] [Amount.Exact K] {n : Network K}
    (hn : n.Nonneg) : n.level.Nonneg := by
  intro name r hr
  rw [rivers_level, Table.get?_mapWithKey] at hr
  obtain ⟨q, hq, rfl⟩ := Option.map_eq_some_iff.mp hr
  show 0 ≤ n.volumeAt name q.volume
  unfold volumeAt
  split
  · exact Dam.levelAt_nonneg
  · exact hn hq

variable {n : Network Rat}

/-- No less than nothing spills in any place, whether there is a dam or not. -/
theorem spillAt_nonneg {name : String} {volume : Rat} : 0 ≤ n.spillAt name volume := by
  unfold spillAt
  split
  · exact Dam.spill_nonneg
  · exact le_refl _

/-- Sound water is at rest once dams and rivers are at one level. -/
theorem Sound.atRest_level (hn : n.Sound) (hwf : n.WellFormed) : n.level.AtRest := by
  -- A dam has a river, since the network is well-formed, and comes to its level.
  have hdam : ∀ {name d}, n.level.dams.get? name = some d →
      ∃ d' r, n.dams.get? name = some d' ∧ n.rivers.get? name = some r ∧
        d = { d' with level := d'.levelAt r.volume } := by
    intro name d hd
    have hkey : name ∈ n.dams.keys := by
      have h : name ∈ n.level.dams.keys := (Table.mem_keys _ _).mpr ⟨d, hd⟩
      rwa [Network.level, Table.keys_mapWithKey] at h
    obtain ⟨r, hr⟩ := (n.rivers.mem_keys name).mp (hwf.river_of_dam hkey)
    rw [get?_dams_level hr] at hd
    obtain ⟨d', hd', rfl⟩ := Option.map_eq_some_iff.mp hd
    exact ⟨d', r, hd', hr, rfl⟩
  have hvolume : n.Nonneg := fun _ _ => hn.volume
  refine ⟨⟨fun {_ _} hr => hvolume.level hr, fun {name d} hd => ?_, fun c hc {name x} hw => ?_⟩,
    fun {name d} hd => ?_⟩
  · obtain ⟨d', r, hd', -, rfl⟩ := hdam hd
    obtain ⟨hlow, hhigh⟩ := hn.level hd'
    exact ⟨Dam.levelAt_nonneg, Dam.levelAt_le (hlow.trans hhigh)⟩
  · obtain ⟨hpos, hkey⟩ := hn.waiting c hc hw
    refine ⟨hpos, ?_⟩
    rwa [rivers_level, Table.keys_mapWithKey]
  · obtain ⟨d', r, hd', hr, rfl⟩ := hdam hd
    refine ⟨{ r with volume := d'.levelAt r.volume }, ?_, rfl⟩
    rw [rivers_level, Table.get?_mapWithKey, hr, Option.map_some, volumeAt, hd']

/-- What leaves the rivers when they come to one level with their dams is recorded as let go. -/
theorem Sound.stored_level_add_spilled (hn : n.Sound) (hwf : n.WellFormed) {released : Table Rat}
    (hkeys : released.keys = n.dams.keys) :
    n.level.stored + (n.spilled released).weigh (fun _ x => x)
      = n.stored + released.weigh fun _ x => x := by
  -- What spills is a sum over dams in the record and over rivers in the volumes.
  let spills (name : String) : Rat :=
    n.spillAt name (((n.rivers.get? name).map River.volume).getD 0)
  have hspilled : (n.spilled released).weigh (fun _ x => x)
      = released.weigh (fun _ x => x) + released.weigh fun name _ => spills name := by
    rw [spilled_eq hwf hkeys, Table.weigh_mapWithKey, Table.weigh_add]
  -- Nothing spills from a river without a dam, so both sums are over the same names.
  have hspills : (released.weigh fun name _ => spills name)
      = n.rivers.weigh fun name _ => spills name := by
    refine Table.weigh_eq_of_subset _ (fun name hname => hwf.river_of_dam (hkeys ▸ hname))
      fun name hname => ?_
    have hnone : n.dams.get? name = none := (Table.get?_eq_none_iff _ _).mpr (hkeys ▸ hname)
    simp only [spills, spillAt, hnone]
  have hrivers : n.level.stored + (n.rivers.weigh fun name _ => spills name) = n.stored := by
    rw [stored_eq_weigh, stored_eq_weigh, rivers_level, Table.weigh_mapWithKey, ← Table.weigh_add]
    refine Table.weigh_congr fun name r hr => ?_
    simp only [spills, hr, Option.map_some, Option.getD_some, volumeAt, spillAt]
    cases hd : n.dams.get? name with
    | none => exact add_zero _
    | some d =>
      obtain ⟨hlow, hhigh⟩ := hn.level hd
      exact Dam.levelAt_add_spill (hlow.trans hhigh) (hn.volume hr)
  rw [hspilled, hspills, ← hrivers]
  ring

end Network

end Catchment
