import Catchment.Proofs.Network.Water
import Catchment.Day.Rain

/-!
# `Catchment.Proofs.Day.Rain`: rain adds to the water

Rain on a river adds to its volume, and all of it is there afterwards. Rain on a
dam goes to its river first, so that for a while the river is ahead of the dam by
the rain of the day.

* `plan_takeRain`: rain leaves the plan alone.
* `stored_takeRain`: the rivers hold as much more as it rains.
* `Network.RainAhead`, `AtRest.rainAhead`: how far rivers are ahead of their dams.
-/

set_option autoImplicit false

namespace Catchment

section

variable {α : Type} [Amount α] {day : Int} {r : River α} {n : Network α}

/-- Rain changes nothing of a river but its water. -/
theorem River.bed_takeRain : (r.takeRain day).bed = r.bed := by
  unfold River.takeRain
  split <;> rfl

/-- The rain of a day is the same after it has fallen. -/
theorem River.rainOn_takeRain : (r.takeRain day).rainOn day = r.rainOn day := by
  unfold River.takeRain
  split <;> rfl

/-- The rain of a day is told river by river, and nothing else is told meanwhile. -/
theorem Network.mem_rainEvents {e : Event α} (he : e ∈ n.rainEvents day) :
    ∃ river amount volume, e = .rained day river amount volume := by
  obtain ⟨r, -, hr⟩ := List.mem_filterMap.mp he
  unfold River.rainEvent? at hr
  split at hr
  · cases hr
    exact ⟨_, _, _, rfl⟩
  · cases hr

/-- Rain falls on each river by itself. -/
theorem Network.get?_rivers_takeRain {name : String} (hr : n.rivers.get? name = some r) :
    (n.takeRain day).rivers.get? name = some (r.takeRain day) := by
  rw [Network.takeRain, Table.get?_map, hr]
  rfl

/-- Rain changes nothing that was declared. -/
theorem Network.plan_takeRain : (n.takeRain day).plan = n.plan := by
  simp only [Network.plan, Network.takeRain, Table.map_map, River.bed_takeRain]

end

/-- A river holds the rain of the day in addition. Whether there is any need not be asked, if it
is not below nought. -/
theorem River.volume_takeRain {K : Type} [Field K] [LinearOrder K] [Amount.Exact K] {day : Int}
    {r : River K} (h : 0 ≤ r.rainOn day) :
    (r.takeRain day).volume = r.volume + r.rainOn day := by
  unfold River.takeRain
  rw [Amount.zero_eq]
  split
  · rfl
  · rename_i hdry
    rw [le_antisymm (not_lt.mp hdry) h, add_zero]

/-- Rain leaves no river with less than nothing. -/
theorem Network.Nonneg.takeRain {K : Type} [Field K] [LinearOrder K] [IsStrictOrderedRing K]
    [Amount.Exact K] {n : Network K} (hn : n.Nonneg) (day : Int) : (n.takeRain day).Nonneg := by
  intro name r hr
  rw [Network.takeRain, Table.get?_map] at hr
  obtain ⟨q, hq, rfl⟩ := Option.map_eq_some_iff.mp hr
  unfold River.takeRain
  rw [Amount.zero_eq]
  split
  · rename_i hrain
    exact add_nonneg (hn hq) hrain.le
  · exact hn hq

variable {day : Int} {n : Network Rat}

namespace Network

/-- The rivers hold as much more as it rains. -/
theorem stored_takeRain (h : n.All (0 ≤ ·)) :
    (n.takeRain day).stored = n.stored + n.rainfall day := by
  rw [stored_eq_weigh, stored_eq_weigh, rainfall_eq_weigh, ← Table.weigh_add, takeRain,
    Table.weigh_map]
  exact Table.weigh_congr fun _ _ hr => River.volume_takeRain (rainOn_nonneg h hr)

/-- Every river with a dam is ahead of it by the rain of the day. -/
def RainAhead (day : Int) (n : Network Rat) : Prop :=
  ∀ {name d}, n.dams.get? name = some d →
    ∃ r, n.rivers.get? name = some r ∧ r.volume = d.level + r.rainOn day

/-- Rain keeps the water sound. -/
theorem Sound.takeRain (hn : n.Sound) (h : n.All (0 ≤ ·)) : (n.takeRain day).Sound := by
  refine ⟨fun {name r} hr => ?_, hn.level, fun c hc {name amount} hw => ?_⟩
  · rw [Network.takeRain, Table.get?_map] at hr
    obtain ⟨r', hr', rfl⟩ := Option.map_eq_some_iff.mp hr
    rw [River.volume_takeRain (rainOn_nonneg h hr')]
    exact add_nonneg (hn.volume hr') (rainOn_nonneg h hr')
  · obtain ⟨hpos, hkey⟩ := hn.waiting c hc hw
    refine ⟨hpos, ?_⟩
    rwa [Network.takeRain, Table.keys_map]

/-- When it rains on a network at rest, every river with a dam is ahead of it by just that
rain. -/
theorem AtRest.rainAhead (hn : n.AtRest) (h : n.All (0 ≤ ·)) :
    (n.takeRain day).RainAhead day := by
  intro name d hd
  obtain ⟨r, hr, hlevel⟩ := hn.mirror hd
  refine ⟨r.takeRain day, get?_rivers_takeRain hr, ?_⟩
  rw [River.volume_takeRain (rainOn_nonneg h hr), River.rainOn_takeRain, hlevel]

end Network

end Catchment
