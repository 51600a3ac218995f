import Catchment.Proofs.Day.Rain
import Catchment.Proofs.Network.Dam

/-!
# `Catchment.Proofs.Day.Settlement`: arrivals, one after the other

The arrivals of a day are a fold. `Settlement.Steady` is what holds after any
number of them: the plan is as it was, nothing is below nought, and a river with a
dam is ahead of the dam by the rain of the day until water has arrived there.
`settlement_induction` packs the induction over the arrivals, so that a further
property of all arrivals is proved by looking at one.

* `arrive_eq_fillRiver`, `arrive_eq_fillDam`: what one arrival does.
* `settlement_cases`, `plan_settle`: what all arrivals keep, whatever the amounts are.
* `Settlement.Steady.arrive`: what one arrival keeps.
* `settlement_induction`: what all arrivals keep in sound amounts.
* `stored_settle`: all that waited is in rivers afterwards, or was let go.
-/

set_option autoImplicit false

namespace Catchment

section

variable {α : Type} [Amount α] {rule : StormRule α} {day : Int} {s : Settlement α}
  {name : String} {amount : α}

/-- Water for a river without a dam fills the river. -/
theorem Settlement.arrive_eq_fillRiver {r : River α} (hpos : ¬amount ≤ 0)
    (hr : s.rivers.get? name = some r) (hd : s.dams.get? name = none) :
    s.arrive rule day (name, amount) = s.fillRiver day r name amount := by
  simp only [arrive, if_neg hpos, hr, hd]

/-- Water for a river with a dam is regulated by the dam. -/
theorem Settlement.arrive_eq_fillDam {r : River α} {d : Dam α} (hpos : ¬amount ≤ 0)
    (hr : s.rivers.get? name = some r) (hd : s.dams.get? name = some d) :
    s.arrive rule day (name, amount) = s.fillDam rule day r d name amount := by
  simp only [arrive, if_neg hpos, hr, hd]

/-- A river with other water is declared in the same way. -/
private theorem map_bed_modify (rivers : Table (River α)) (name : String) (volume : α) :
    (rivers.modify name fun r => { r with volume := volume }).map River.bed
      = rivers.map River.bed := by
  rw [Table.modify, Table.map_mapWithKey, Table.map]
  refine Table.mapWithKey_congr fun k r _ => ?_
  split <;> rfl

/-- A dam with another level is declared in the same way. -/
private theorem map_drained_insert {dams : Table (Dam α)} {d : Dam α} (after : Dam α)
    (hd : dams.get? name = some d) (hafter : after.drained = d.drained) :
    (dams.insert name after).map Dam.drained = dams.map Dam.drained := by
  rw [Table.map_insert, hafter]
  apply Table.insert_eq_self
  rw [Table.get?_map, hd]
  rfl

namespace Network

variable (rule : StormRule α) (day : Int) (released : Table α) (n : Network α)

/-- What holds before the first arrival and is kept by every arrival, in a river or at a dam,
holds after all arrivals of a day. -/
theorem settlement_cases {motive : Settlement α → Prop}
    (start : motive ⟨n.rivers, n.dams, released, [], []⟩)
    (river : ∀ s r name amount, ¬amount ≤ 0 → s.rivers.get? name = some r →
      s.dams.get? name = none → motive s → motive (s.fillRiver day r name amount))
    (dam : ∀ s r d name amount, ¬amount ≤ 0 → s.rivers.get? name = some r →
      s.dams.get? name = some d → motive s → motive (s.fillDam rule day r d name amount)) :
    motive (n.settlement rule day released) := by
  have arrive : ∀ s a, motive s → motive (s.arrive rule day a) := by
    intro s a hs
    unfold Settlement.arrive
    simp only
    split
    · exact hs
    · rename_i hsome
      split
      · exact hs
      · rename_i r hr hd
        exact river s r a.1 a.2 hsome hr hd hs
      · rename_i r d hr hd
        exact dam s r d a.1 a.2 hsome hr hd hs
  unfold settlement
  generalize (⟨n.rivers, n.dams, released, [], []⟩ : Settlement α) = s at start
  -- The induction is on the arrivals.
  induction n.arrivals generalizing s with
  | nil => exact start
  | cons a rest ih => exact ih _ (arrive s a start)

/-- What is let go of arrivals is recorded under the names that were there before. -/
theorem keys_released_settlement :
    (n.settlement rule day released).released.keys = released.keys :=
  settlement_cases rule day released n (motive := fun s => s.released.keys = released.keys) rfl
    (fun _ _ _ _ _ _ _ hs => hs) fun _ _ _ _ _ _ _ _ hs => (Table.keys_modify _ _ _).trans hs

/-- Arrivals leave the plan alone. -/
theorem plan_settle : (n.settle rule day released).plan = n.plan := by
  have hkept := settlement_cases rule day released n
    (motive := fun s => s.rivers.map River.bed = n.rivers.map River.bed ∧
      s.dams.map Dam.drained = n.dams.map Dam.drained)
    ⟨rfl, rfl⟩ (fun _ _ _ _ _ _ _ hs => ⟨(map_bed_modify _ _ _).trans hs.1, hs.2⟩)
    fun _ _ d _ _ _ _ hd hs =>
      ⟨(map_bed_modify _ _ _).trans hs.1, (map_drained_insert (d.settle ..) hd rfl).trans hs.2⟩
  simp only [plan, settle, hkept.1, hkept.2, List.map_map]
  rfl

end Network

/-- Arrivals leave no river with less than nothing. -/
theorem Network.Nonneg.settle {K : Type} [Field K] [LinearOrder K] [IsStrictOrderedRing K]
    [Amount.Exact K] {n : Network K} (hn : n.Nonneg) (rule : StormRule K) (day : Int)
    (released : Table K) : (n.settle rule day released).Nonneg := by
  refine settlement_cases rule day released n
    (motive := fun s => ∀ ⦃name r⦄, s.rivers.get? name = some r → 0 ≤ r.volume) hn ?_ ?_
  · intro s r name amount hsome hr _ hs k q hq
    rw [Amount.zero_eq] at hsome
    rw [Settlement.fillRiver, Table.get?_modify] at hq
    split at hq
    · obtain ⟨q', -, rfl⟩ := Option.map_eq_some_iff.mp hq
      exact add_nonneg (hs hr) (not_le.mp hsome).le
    · exact hs hq
  · intro s r d name amount _ _ _ hs k q hq
    rw [Settlement.fillDam, Table.get?_modify] at hq
    split at hq
    · obtain ⟨q', -, rfl⟩ := Option.map_eq_some_iff.mp hq
      exact Dam.level_settle_nonneg
    · exact hs hq

/-- The rain that still counts when water arrives at a dam. -/
def Settlement.rainLeft (day : Int) (s : Settlement α) (r : River α) (name : String) : α :=
  if name ∈ s.operated then 0 else r.rainOn day

end

namespace Settlement

variable {rule : StormRule Rat} {day : Int} {n : Network Rat} {s : Settlement Rat}
  {name : String} {amount : Rat}

/-- What holds after any number of arrivals. -/
structure Steady (day : Int) (n : Network Rat) (s : Settlement Rat) : Prop where
  rivers : s.rivers.map River.bed = n.rivers.map River.bed
  dams : s.dams.map Dam.drained = n.dams.map Dam.drained
  volume : ∀ {name r}, s.rivers.get? name = some r → 0 ≤ r.volume
  level : ∀ {name d}, s.dams.get? name = some d → 0 ≤ d.level ∧ d.level ≤ d.capacity
  /-- There is a record for every dam, and for no other name. -/
  released_keys : s.released.keys = n.dams.keys
  released : ∀ {name amount}, s.released.get? name = some amount → 0 ≤ amount
  /-- A river with a dam is ahead of the dam by the rain that still counts. -/
  mirror : ∀ {name d}, s.dams.get? name = some d →
    ∃ r, s.rivers.get? name = some r ∧ r.volume = d.level + s.rainLeft day r name

/-- The arrivals so far have left the rivers what they were by name. -/
theorem Steady.keys_rivers (hs : s.Steady day n) : s.rivers.keys = n.rivers.keys := by
  rw [← Table.keys_map River.bed, hs.rivers, Table.keys_map]

/-- The arrivals so far have left the dams what they were by name. -/
theorem Steady.keys_dams (hs : s.Steady day n) : s.dams.keys = n.dams.keys := by
  rw [← Table.keys_map Dam.drained, hs.dams, Table.keys_map]

/-- No river has less than no rain, part of the way through the arrivals. -/
theorem Steady.rainOn_nonneg (hs : s.Steady day n) (hn : n.All (0 ≤ ·)) {r : River Rat}
    (hr : s.rivers.get? name = some r) : 0 ≤ r.rainOn day := by
  -- Arrivals change volumes only.
  have hbed : (s.rivers.map River.bed).get? name = some r.bed := by
    rw [Table.get?_map, hr]
    rfl
  rw [hs.rivers] at hbed
  exact (Network.rainOn_nonneg (Network.all_plan.mpr hn) hbed :)

/-- The rain that still counts at a dam is no less than nothing. -/
theorem Steady.rainLeft_nonneg (hs : s.Steady day n) (hn : n.All (0 ≤ ·)) {r : River Rat}
    (hr : s.rivers.get? name = some r) : 0 ≤ s.rainLeft day r name := by
  unfold rainLeft
  split
  · exact le_refl _
  · exact hs.rainOn_nonneg hn hr

/-- There is no less than nothing at a dam to which some water comes. -/
theorem Steady.available_nonneg (hs : s.Steady day n) (hn : n.All (0 ≤ ·)) {r : River Rat}
    {d : Dam Rat} (hr : s.rivers.get? name = some r) (hd : s.dams.get? name = some d)
    (hpos : 0 < amount) : 0 ≤ d.available amount (s.rainLeft day r name) :=
  add_nonneg (add_nonneg (hs.level hd).1 hpos.le) (hs.rainLeft_nonneg hn hr)

/-- Filling a river leaves the others as they are. -/
theorem rivers_fillRiver {r : River Rat} (hr : s.rivers.get? name = some r) :
    (s.fillRiver day r name amount).rivers
      = s.rivers.insert name { r with volume := r.volume + amount } :=
  Table.modify_eq_insert hr fun q => { q with volume := r.volume + amount }

/-- Filling a dam puts its river at the new level and leaves the others as they are. -/
theorem rivers_fillDam {r : River Rat} {d : Dam Rat} (hr : s.rivers.get? name = some r) :
    (s.fillDam rule day r d name amount).rivers = s.rivers.insert name
      { r with volume := (d.settle rule amount (s.rainLeft day r name)).level } :=
  Table.modify_eq_insert hr fun q =>
    { q with volume := (d.settle rule amount (s.rainLeft day r name)).level }

/-- Filling a dam adds to what is recorded for it. -/
theorem released_fillDam {r : River Rat} {d : Dam Rat} {before : Rat}
    (h : s.released.get? name = some before) :
    (s.fillDam rule day r d name amount).released
      = s.released.insert name (before + d.release rule amount (s.rainLeft day r name)) :=
  Table.modify_eq_insert h fun x => x + d.release rule amount (s.rainLeft day r name)

/-- Filling a river keeps what holds after any number of arrivals. -/
theorem Steady.fillRiver (hs : s.Steady day n) {r : River Rat} (hpos : 0 < amount)
    (hr : s.rivers.get? name = some r) (hd : s.dams.get? name = none) :
    (s.fillRiver day r name amount).Steady day n := by
  refine ⟨(map_bed_modify _ _ _).trans hs.rivers, hs.dams, fun {j r'} hj => ?_, hs.level,
    hs.released_keys, hs.released, fun {j d'} hj => ?_⟩
  · rw [rivers_fillRiver hr] at hj
    have hvolume : 0 ≤ r.volume + amount := add_nonneg (hs.volume hr) hpos.le
    exact Table.of_get?_insert (P := fun _ (q : River Rat) => 0 ≤ q.volume) hvolume hs.volume hj
  · -- The river has no dam, so it is not the one that is asked about.
    have hne : j ≠ name := by
      rintro rfl
      rw [show s.dams.get? j = some d' from hj] at hd
      cases hd
    obtain ⟨r', hr', hlevel⟩ := hs.mirror hj
    refine ⟨r', ?_, hlevel⟩
    rw [rivers_fillRiver hr, Table.get?_insert, if_neg hne, hr']

/-- Filling a dam keeps what holds after any number of arrivals. Its rain counts the first time,
and from then on the river is at the level of the dam. -/
theorem Steady.fillDam (hs : s.Steady day n) {r : River Rat} {d : Dam Rat}
    (hr : s.rivers.get? name = some r) (hd : s.dams.get? name = some d) :
    (s.fillDam rule day r d name amount).Steady day n := by
  have hcapacity : 0 ≤ d.capacity := (hs.level hd).1.trans (hs.level hd).2
  refine ⟨(map_bed_modify _ _ _).trans hs.rivers,
    (map_drained_insert (d.settle ..) hd rfl).trans hs.dams, fun {j r'} hj => ?_,
    Table.of_get?_insert ⟨Dam.level_settle_nonneg, Dam.level_settle_le hcapacity⟩ hs.level,
    (Table.keys_modify _ _ _).trans hs.released_keys, fun {j x} hj => ?_, fun {j d'} hj => ?_⟩
  · rw [rivers_fillDam hr] at hj
    exact Table.of_get?_insert (P := fun _ (q : River Rat) => 0 ≤ q.volume)
      Dam.level_settle_nonneg hs.volume hj
  · rw [Settlement.fillDam, Table.get?_modify] at hj
    split at hj
    · obtain ⟨y, hy, rfl⟩ := Option.map_eq_some_iff.mp hj
      exact add_nonneg (hs.released hy) Dam.release_nonneg
    · exact hs.released hj
  · rw [Settlement.fillDam, Table.get?_insert] at hj
    by_cases hname : j = name
    · -- The river is set to the level of the dam, and the rain no longer counts.
      rw [if_pos hname] at hj
      cases hj
      refine ⟨{ r with volume := (d.settle rule amount (s.rainLeft day r name)).level }, ?_, ?_⟩
      · rw [rivers_fillDam hr, Table.get?_insert, if_pos hname]
      · simp [rainLeft, Settlement.fillDam, hname]
    · rw [if_neg hname] at hj
      obtain ⟨r', hr', hlevel⟩ := hs.mirror hj
      refine ⟨r', ?_, ?_⟩
      · rw [rivers_fillDam hr, Table.get?_insert, if_neg hname, hr']
      · simpa [rainLeft, Settlement.fillDam, hname] using hlevel

/-- What an arrival keeps, wherever it goes. -/
theorem Steady.arrive (hs : s.Steady day n) (hpos : 0 < amount) (hkey : name ∈ n.rivers.keys) :
    (s.arrive rule day (name, amount)).Steady day n := by
  rw [← hs.keys_rivers] at hkey
  obtain ⟨r, hr⟩ := (s.rivers.mem_keys name).mp hkey
  cases hd : s.dams.get? name with
  | none =>
    rw [arrive_eq_fillRiver (not_le.mpr hpos) hr hd]
    exact hs.fillRiver hpos hr hd
  | some d =>
    rw [arrive_eq_fillDam (not_le.mpr hpos) hr hd]
    exact hs.fillDam hr hd

/-- What holds after any number of arrivals holds before the first, if rivers are ahead of their
dams by the rain. -/
theorem steady_start (hn : n.Sound) (hahead : n.RainAhead day) :
    Steady day n ⟨n.rivers, n.dams, n.nothingReleased, [], []⟩ := by
  refine ⟨rfl, rfl, hn.volume, hn.level, Table.keys_map _ _, fun {name x} hx => ?_,
    fun {name d} hd => ?_⟩
  · obtain ⟨d, -, rfl⟩ := Option.map_eq_some_iff.mp ((Table.get?_map _ _ _).symm.trans hx)
    exact le_refl _
  · obtain ⟨r, hr, hlevel⟩ := hahead hd
    exact ⟨r, hr, hlevel⟩

/-- The water in rivers, and what was let go. -/
def water (s : Settlement Rat) : Rat :=
  (s.rivers.weigh fun _ r => r.volume) + s.released.weigh fun _ x => x

/-- An arrival adds its amount to the water, and nothing else does. -/
theorem Steady.water_arrive (hs : s.Steady day n) (hn : n.All (0 ≤ ·)) (hpos : 0 < amount)
    (hkey : name ∈ n.rivers.keys) :
    (s.arrive rule day (name, amount)).water = s.water + amount := by
  rw [← hs.keys_rivers] at hkey
  obtain ⟨r, hr⟩ := (s.rivers.mem_keys name).mp hkey
  cases hd : s.dams.get? name with
  | none =>
    rw [arrive_eq_fillRiver (not_le.mpr hpos) hr hd, water, water, rivers_fillRiver hr,
      Table.weigh_insert, hr]
    simp only [Settlement.fillRiver, Option.map_some, Option.getD_some]
    ring
  | some d =>
    -- The river loses what it was ahead, and what is let go is recorded.
    have hrecord : name ∈ s.released.keys := by
      rw [hs.released_keys, ← hs.keys_dams]
      exact (s.dams.mem_keys name).mpr ⟨d, hd⟩
    obtain ⟨x, hx⟩ := (s.released.mem_keys name).mp hrecord
    obtain ⟨r', hr', hahead⟩ := hs.mirror hd
    obtain rfl : r' = r := Option.some.inj (hr'.symm.trans hr)
    have hkept : (d.settle rule amount (s.rainLeft day r' name)).level
        = d.level + amount + s.rainLeft day r' name
          - d.release rule amount (s.rainLeft day r' name) :=
      Dam.level_settle ((hs.level hd).1.trans (hs.level hd).2) (hs.available_nonneg hn hr hd hpos)
    rw [arrive_eq_fillDam (not_le.mpr hpos) hr hd, water, water, rivers_fillDam hr,
      released_fillDam hx, Table.weigh_insert, Table.weigh_insert, hr, hx]
    simp only [Option.map_some, Option.getD_some, hkept, hahead]
    ring

end Settlement

namespace Network

variable {rule : StormRule Rat} {day : Int} {n : Network Rat}

/-- What holds before the first arrival and is kept by every arrival holds after all arrivals of a
day. -/
theorem settlement_induction (rule : StormRule Rat)
    {motive : List (String × Rat) → Settlement Rat → Prop} (hn : n.Sound)
    (hahead : n.RainAhead day)
    (start : motive [] ⟨n.rivers, n.dams, n.nothingReleased, [], []⟩)
    (step : ∀ done s name amount, s.Steady day n → 0 < amount → name ∈ n.rivers.keys →
      motive done s → motive (done ++ [(name, amount)]) (s.arrive rule day (name, amount))) :
    (n.settlement rule day n.nothingReleased).Steady day n ∧
      motive n.arrivals (n.settlement rule day n.nothingReleased) := by
  have harrivals : ∀ a ∈ n.arrivals, 0 < a.2 ∧ a.1 ∈ n.rivers.keys := fun a ha => hn.arrivals ha
  unfold settlement
  generalize n.arrivals = arrivals at harrivals ⊢
  -- The induction is on the arrivals, from the last.
  induction arrivals using List.reverseRecOn with
  | nil => exact ⟨Settlement.steady_start hn hahead, start⟩
  | append_singleton done a ih =>
    obtain ⟨name, amount⟩ := a
    obtain ⟨hpos, hkey⟩ := harrivals (name, amount) (by simp)
    obtain ⟨hs, hmotive⟩ := ih fun a ha => harrivals a (List.mem_append_left _ ha)
    rw [List.foldl_append]
    exact ⟨hs.arrive hpos hkey, step _ _ _ _ hs hpos hkey hmotive⟩

/-- What holds after any number of arrivals holds after all of them. -/
theorem steady_settlement (hn : n.Sound) (hahead : n.RainAhead day) :
    (n.settlement rule day n.nothingReleased).Steady day n :=
  (settlement_induction rule (motive := fun _ _ => True) hn hahead trivial
    fun _ _ _ _ _ _ _ _ => trivial).1

/-- Nothing is under way once all that waited has arrived. -/
theorem inTransit_settle {released : Table Rat} : (n.settle rule day released).inTransit = 0 := by
  refine inTransit_eq_zero fun c hc => ?_
  obtain ⟨c', -, rfl⟩ := List.mem_map.mp hc
  rfl

/-- All that waited is in rivers afterwards, or was let go. -/
theorem stored_settle (hn : n.Sound) (hall : n.All (0 ≤ ·)) (hahead : n.RainAhead day) :
    (n.settle rule day n.nothingReleased).stored
        + (n.settlement rule day n.nothingReleased).released.weigh (fun _ x => x)
      = n.stored + n.inTransit := by
  have h := settlement_induction rule (motive := fun done s =>
    s.water = n.stored + (done.map (·.2)).sum) hn hahead ?_ ?_
  · rw [stored_eq_weigh, inTransit_eq_sum]
    exact h.2
  · rw [stored_eq_weigh, Settlement.water, nothingReleased, Table.weigh_map]
    simp [Table.weigh]
  · intro done s name amount hs hpos hkey hwater
    rw [hs.water_arrive hall hpos hkey, hwater]
    simp [add_assoc]

/-- The arrivals of a day keep the water sound. -/
theorem Sound.settle (hn : n.Sound) (hahead : n.RainAhead day) :
    (n.settle rule day n.nothingReleased).Sound := by
  have hs : (n.settlement rule day n.nothingReleased).Steady day n := steady_settlement hn hahead
  refine ⟨hs.volume, hs.level, fun c hc {name amount} hw => ?_⟩
  obtain ⟨c', -, rfl⟩ := List.mem_map.mp hc
  cases hw

end Network

end Catchment
