import Catchment.Proofs.Day

/-!
# `Catchment.Proofs.Day.Scaled`: a day in other units

Water may be measured in other units. Then every amount of rain, every volume and level
and every capacity is multiplied by the same factor, and so is the limit of heavy rain,
while percentages and shares stay what they are. A day compares amounts with amounts and
percentages with percentages, adds amounts to amounts, and divides one amount by another
only where it needs a share. So it does the same in any unit.

* `Network.scale`, `StormRule.scale`, `Event.scale`: networks, rules and events in other units.
* `Dam.release_scale`, `Dam.settle_scale`: what a dam does with a day's water.
* `Network.settlement_scale`, `Network.schedule_scale`, `Network.level_scale`: the parts of a day.
* `Network.day_scale`: a whole day.
-/

set_option autoImplicit false

namespace Catchment

open Amount (larger smaller)

/-! ### Other units -/

section

variable {α : Type} [Mul α]

/-- A river in other units. -/
def River.scale (c : α) (r : River α) : River α :=
  { r with rain := r.rain.map (c * ·), volume := c * r.volume }

/-- A dam in other units. Its target is a percentage. -/
def Dam.scale (c : α) (d : Dam α) : Dam α :=
  { d with capacity := c * d.capacity, level := c * d.level }

/-- A connection in other units. -/
def Connection.scale (c : α) (k : Connection α) : Connection α :=
  { k with waiting := k.waiting.map (c * ·) }

/-- A network in other units. -/
def Network.scale (c : α) (n : Network α) : Network α :=
  { n with
    rivers := n.rivers.map (River.scale c)
    dams := n.dams.map (Dam.scale c)
    capacities := n.capacities.map (c * ·)
    flows := n.flows.map (Connection.scale c) }

/-- A storm rule in other units. What heavy rain makes a dam let go is a share of its capacity. -/
def StormRule.scale (c : α) (rule : StormRule α) : StormRule α :=
  { rule with heavyRain := c * rule.heavyRain }

/-- A river as it is announced, in other units. -/
def RiverSummary.scale (c : α) (r : RiverSummary α) : RiverSummary α :=
  { r with totalRain := c * r.totalRain, capacity := r.capacity.map (c * ·) }

/-- A dam as it is announced, in other units. -/
def DamSummary.scale (c : α) (d : DamSummary α) : DamSummary α :=
  { d with capacity := c * d.capacity }

/-- An event in other units. Percentages stay what they are. -/
def Event.scale (c : α) : Event α → Event α
  | started outflowDays lastDay rivers dams routes =>
    .started outflowDays lastDay (rivers.map (RiverSummary.scale c))
      (dams.map (DamSummary.scale c)) routes
  | dayBegun day => .dayBegun day
  | rained day river amount volume => .rained day river (c * amount) (c * volume)
  | arrived day destination amount volume => .arrived day destination (c * amount) (c * volume)
  | regulated day dam inflow rain release level levelPercent =>
    .regulated day dam (c * inflow) (c * rain) (c * release) (c * level) levelPercent
  | scheduled day flow destination amount => .scheduled day flow destination (c * amount)
  | finalVolume river volume capacity => .finalVolume river (c * volume) (capacity.map (c * ·))
  | nearCapacity river percent => .nearCapacity river percent
  | overCapacity river excess => .overCapacity river (c * excess)

/-- What has become of a network part of the way through the arrivals of a day, in other units. -/
def Settlement.scale (c : α) (s : Settlement α) : Settlement α where
  rivers := s.rivers.map (River.scale c)
  dams := s.dams.map (Dam.scale c)
  released := s.released.map (c * ·)
  operated := s.operated
  events := s.events.map (Event.scale c)

/-- What a connection asks for, in other units. -/
def Draw.scale (c : α) (d : Draw α) : Draw α :=
  { d with held := c * d.held, wanted := c * d.wanted }

/-- What a day leaves behind, in other units. No notice of a day gives an amount. -/
def DayOutcome.scale (c : α) (outcome : DayOutcome α) : DayOutcome α where
  network := outcome.network.scale c
  released := outcome.released.map (c * ·)
  events := outcome.events.map (Event.scale c)
  notices := outcome.notices

end

section

variable {K : Type} [Field K] [LinearOrder K] [Amount.Exact K] {c : K}

/-! ### Sums, and the larger and the smaller of two amounts -/

namespace Amount

/-- A sum is multiplied if its parts are. -/
theorem total_scale (c : K) (xs : List K) : total (xs.map (c * ·)) = c * total xs := by
  rw [total_eq_sum, total_eq_sum, List.sum_map_mul_left, List.map_id']

/-- The sum of a batch is multiplied if its parts are. -/
theorem batchTotal_scale (c : K) (xs : List K) :
    batchTotal (xs.map (c * ·)) = c * batchTotal xs := by
  rw [batchTotal_eq_sum, batchTotal_eq_sum, List.sum_map_mul_left, List.map_id']

/-- Where there is nothing, there is nothing in any unit. -/
theorem getD_map_scale (c : K) (x : Option K) : (x.map (c * ·)).getD 0 = c * x.getD 0 := by
  cases x with
  | some a => rfl
  | none => exact (mul_zero c).symm

variable [IsStrictOrderedRing K]

/-- The larger of two amounts is the larger one in any unit. -/
theorem larger_scale (hc : 0 < c) (a b : K) : larger (c * a) (c * b) = c * larger a b := by
  rw [larger_eq_max, larger_eq_max, mul_max_of_nonneg a b hc.le]

/-- The smaller of two amounts is the smaller one in any unit. -/
theorem smaller_scale (hc : 0 < c) (a b : K) : smaller (c * a) (c * b) = c * smaller a b := by
  rw [smaller_eq_min, smaller_eq_min, mul_min_of_nonneg a b hc.le]

/-- An amount is above nought in any unit or in none. -/
theorem scale_nonpos_iff (hc : 0 < c) (a : K) : c * a ≤ 0 ↔ a ≤ 0 := by
  rw [← not_lt, ← not_lt, mul_pos_iff_of_pos_left hc]

/-- Nought is nought in any unit. -/
theorem larger_zero_scale (hc : 0 < c) (a : K) : larger 0 (c * a) = c * larger 0 a := by
  rw [← larger_scale hc, mul_zero]

end Amount

variable [IsStrictOrderedRing K]

/-! ### Rain -/

namespace River

omit [IsStrictOrderedRing K] in
/-- The rain of a day in other units. -/
theorem rainOn_scale (c : K) (r : River K) (day : Int) :
    (r.scale c).rainOn day = c * r.rainOn day := by
  unfold rainOn
  rw [Amount.zero_eq]
  split
  · rw [scale, List.getElem?_map]
    exact Amount.getD_map_scale c _
  · exact (mul_zero c).symm

/-- A river in other units takes up its rain in these units. -/
theorem takeRain_scale (hc : 0 < c) (r : River K) (day : Int) :
    (r.scale c).takeRain day = (r.takeRain day).scale c := by
  unfold takeRain
  simp only [rainOn_scale, Amount.zero_eq, mul_pos_iff_of_pos_left hc]
  split
  · exact congrArg (fun v => { r.scale c with volume := v }) (mul_add c r.volume _).symm
  · rfl

/-- What is told of the rain on a river is told in other units. There is rain in any unit or in
none. -/
theorem rainEvent?_scale (hc : 0 < c) (r : River K) (day : Int) :
    (r.scale c).rainEvent? day = (r.rainEvent? day).map (Event.scale c) := by
  unfold rainEvent?
  simp only [rainOn_scale, takeRain_scale hc, Amount.zero_eq, mul_pos_iff_of_pos_left hc]
  split <;> rfl

end River

namespace Network

/-- It rains on a network in other units as it does on the network. -/
theorem takeRain_scale (hc : 0 < c) (n : Network K) (day : Int) :
    (n.scale c).takeRain day = (n.takeRain day).scale c := by
  have hrivers : (n.rivers.map (River.scale c)).map (·.takeRain day)
      = (n.rivers.map (·.takeRain day)).map (River.scale c) := by
    rw [Table.map_map, Table.map_map]
    exact Table.mapWithKey_congr fun _ r _ => r.takeRain_scale hc day
  simp only [takeRain, scale, hrivers]

/-- What is told of the rain of a day is told in other units. -/
theorem rainEvents_scale (hc : 0 < c) (n : Network K) (day : Int) :
    (n.scale c).rainEvents day = (n.rainEvents day).map (Event.scale c) := by
  rw [rainEvents, rainEvents, scale, Table.values_map, List.filterMap_map, List.map_filterMap]
  exact List.filterMap_congr fun r _ => r.rainEvent?_scale hc day

end Network

/-! ### Dams -/

namespace Dam

/-- A percentage of the capacity has no unit. -/
theorem levelPercent_scale (hc : 0 < c) (d : Dam K) :
    (d.scale c).levelPercent = d.levelPercent := by
  have hzero : c * d.capacity = 0 ↔ d.capacity = 0 := mul_eq_zero_iff_left hc.ne'
  have hpercent : c * d.level / (c * d.capacity) * 100 = d.level / d.capacity * 100 := by
    rw [mul_div_mul_left _ _ hc.ne']
  unfold levelPercent
  rw [Amount.zero_eq]
  -- What can hold nothing can hold nothing in any unit.
  by_cases h : d.capacity = 0
  · rw [if_pos (beq_iff_eq.mpr h)]
    exact if_pos (beq_iff_eq.mpr (hzero.mpr h))
  · rw [if_neg (beq_iff_eq.not.mpr h)]
    exact (if_neg (beq_iff_eq.not.mpr (hzero.not.mpr h))).trans hpercent

omit [IsStrictOrderedRing K] in
/-- The target of a dam is a percentage of its capacity, so it is multiplied with that. -/
theorem target_scale (c : K) (d : Dam K) : (d.scale c).target = c * d.target := by
  show c * d.capacity * d.targetPercent / 100 = c * (d.capacity * d.targetPercent / 100)
  ring

omit [IsStrictOrderedRing K] in
/-- All that is at a dam, in other units. -/
theorem available_scale (c : K) (d : Dam K) (inflow rain : K) :
    (d.scale c).available (c * inflow) (c * rain) = c * d.available inflow rain := by
  show c * d.level + c * inflow + c * rain = c * (d.level + inflow + rain)
  ring

/-- The same rain is heavy in any unit. -/
theorem bracesFor_scale (hc : 0 < c) (d : Dam K) (rule : StormRule K) (rain : K) :
    (d.scale c).bracesFor (rule.scale c) (c * rain) = d.bracesFor rule rain := by
  have hheavy : c * rule.heavyRain < c * rain ↔ rule.heavyRain < rain :=
    mul_lt_mul_iff_of_pos_left hc
  unfold bracesFor
  rw [levelPercent_scale hc]
  exact congrArg (· && _) (decide_eq_decide.mpr hheavy)

/-- What a dam would let go, in other units: its extra release is a share of the capacity, and the
limit of heavy rain is in the same units as the rain. -/
theorem wanted_scale (hc : 0 < c) (d : Dam K) (rule : StormRule K) (inflow rain : K) :
    (d.scale c).wanted (rule.scale c) (c * inflow) (c * rain)
      = c * d.wanted rule inflow rain := by
  unfold wanted
  rw [bracesFor_scale hc, available_scale, target_scale, Amount.zero_eq]
  simp only [← mul_sub, Amount.larger_zero_scale hc]
  split
  · -- The extra release is a share of the capacity, so it is an amount, too.
    show _ + c * d.capacity * rule.extraShare = c * (_ + d.capacity * rule.extraShare)
    rw [mul_add, mul_assoc]
  · rfl

/-- What a dam lets go, in other units. -/
theorem release_scale (hc : 0 < c) (d : Dam K) (rule : StormRule K) (inflow rain : K) :
    (d.scale c).release (rule.scale c) (c * inflow) (c * rain)
      = c * d.release rule inflow rain := by
  have hover : ∀ a, (d.scale c).capacity < c * a ↔ d.capacity < a := fun _ =>
    mul_lt_mul_iff_of_pos_left hc
  unfold release
  rw [wanted_scale hc, available_scale, Amount.zero_eq]
  simp only [Amount.smaller_scale hc, Amount.larger_zero_scale hc, ← mul_sub, hover]
  split
  · exact (mul_sub c _ _).symm
  · rfl

/-- A dam is regulated in other units as it is in its own. -/
theorem settle_scale (hc : 0 < c) (d : Dam K) (rule : StormRule K) (inflow rain : K) :
    (d.scale c).settle (rule.scale c) (c * inflow) (c * rain)
      = (d.settle rule inflow rain).scale c := by
  have hlevel : larger 0 (smaller (c * d.capacity)
        (c * d.level + c * inflow + c * rain - c * d.release rule inflow rain))
      = c * larger 0 (smaller d.capacity
          (d.level + inflow + rain - d.release rule inflow rain)) := by
    rw [← mul_add, ← mul_add, ← mul_sub, Amount.smaller_scale hc, Amount.larger_zero_scale hc]
  unfold settle fill
  rw [release_scale hc, Amount.zero_eq]
  exact congrArg (fun v => { d.scale c with level := v }) hlevel

end Dam

/-! ### Arrivals -/

namespace Settlement

omit [IsStrictOrderedRing K] in
/-- An arrival fills a river in other units as it does in its own. -/
theorem fillRiver_scale (c : K) (day : Int) (s : Settlement K) (r : River K) (name : String)
    (amount : K) :
    (s.scale c).fillRiver day (r.scale c) name (c * amount)
      = (s.fillRiver day r name amount).scale c := by
  have hvolume : (r.scale c).volume + c * amount = c * (r.volume + amount) :=
    (mul_add c r.volume amount).symm
  have hrivers :
      (s.rivers.modify name fun q => { q with volume := r.volume + amount }).map (River.scale c)
      = (s.rivers.map (River.scale c)).modify name fun q =>
        { q with volume := c * (r.volume + amount) } :=
    Table.map_modify (fun _ => by rfl) s.rivers name
  unfold fillRiver
  simp only [scale, hvolume, hrivers, List.map_append]
  rfl

/-- An arrival fills a dam in other units as it does in its own, and what is told of it is told in
these units. -/
theorem fillDam_scale (hc : 0 < c) (rule : StormRule K) (day : Int) (s : Settlement K)
    (r : River K) (d : Dam K) (name : String) (amount : K) :
    (s.scale c).fillDam (rule.scale c) day (r.scale c) (d.scale c) name (c * amount)
      = (s.fillDam rule day r d name amount).scale c := by
  have hrain : (if name ∈ (s.scale c).operated then 0 else (r.scale c).rainOn day)
      = c * if name ∈ s.operated then 0 else r.rainOn day := by
    show (if name ∈ s.operated then 0 else (r.scale c).rainOn day) = _
    rw [r.rainOn_scale, mul_ite, mul_zero]
  unfold fillDam
  rw [Amount.zero_eq]
  dsimp only
  rw [hrain]
  -- How much of the rain counts does not matter from here on.
  generalize (if name ∈ s.operated then 0 else r.rainOn day) = rain
  simp only [scale, Dam.release_scale hc, Dam.settle_scale hc, Dam.levelPercent_scale hc,
    List.map_append, Table.map_insert]
  have hrivers : (s.rivers.modify name fun q =>
        { q with volume := (d.settle rule amount rain).level }).map (River.scale c)
      = (s.rivers.map (River.scale c)).modify name fun q =>
          { q with volume := c * (d.settle rule amount rain).level } :=
    Table.map_modify (fun _ => by rfl) s.rivers name
  have hreleased : (s.released.modify name (· + d.release rule amount rain)).map (c * ·)
      = (s.released.map (c * ·)).modify name (· + c * d.release rule amount rain) :=
    Table.map_modify (fun v => mul_add c v _) s.released name
  rw [hrivers, hreleased]
  rfl

/-- An arrival goes to a river or a dam, or nowhere, in any unit alike. -/
theorem arrive_scale (hc : 0 < c) (rule : StormRule K) (day : Int) (s : Settlement K)
    (arrival : String × K) :
    (s.scale c).arrive (rule.scale c) day (arrival.1, c * arrival.2)
      = (s.arrive rule day arrival).scale c := by
  obtain ⟨name, amount⟩ := arrival
  have hriver : (s.scale c).rivers.get? name = (s.rivers.get? name).map (River.scale c) :=
    Table.get?_map _ _ _
  have hdam : (s.scale c).dams.get? name = (s.dams.get? name).map (Dam.scale c) :=
    Table.get?_map _ _ _
  unfold arrive
  simp only [Amount.zero_eq, Amount.scale_nonpos_iff hc, hriver, hdam]
  split
  · rfl
  · cases s.rivers.get? name with
    | none => rfl
    | some r =>
      cases s.dams.get? name with
      | none => exact s.fillRiver_scale c day r name amount
      | some d => exact s.fillDam_scale hc rule day r d name amount

end Settlement

namespace Network

omit [IsStrictOrderedRing K] in
/-- What waits arrives in other units. -/
theorem arrivals_scale (c : K) (n : Network K) :
    (n.scale c).arrivals = n.arrivals.map fun a => (a.1, c * a.2) := by
  unfold arrivals
  rw [scale, List.flatMap_map, List.map_flatMap]
  rfl

/-- The arrivals of a day are followed in other units as they are in their own. The induction is
on the arrivals. -/
theorem settlement_scale (hc : 0 < c) (rule : StormRule K) (day : Int) (released : Table K)
    (n : Network K) :
    (n.scale c).settlement (rule.scale c) day (released.map (c * ·))
      = (n.settlement rule day released).scale c := by
  have hstart :
      (⟨(n.scale c).rivers, (n.scale c).dams, released.map (c * ·), [], []⟩ : Settlement K)
      = Settlement.scale c ⟨n.rivers, n.dams, released, [], []⟩ := rfl
  unfold settlement
  rw [arrivals_scale, List.foldl_map, hstart]
  -- One arrival does the same in any unit, so all of them do.
  refine List.foldl_hom (Settlement.scale c) fun s a => ?_
  exact s.arrive_scale hc rule day a

/-- A network in other units after the arrivals of a day. -/
theorem settle_scale (hc : 0 < c) (rule : StormRule K) (day : Int) (released : Table K)
    (n : Network K) :
    (n.scale c).settle (rule.scale c) day (released.map (c * ·))
      = (n.settle rule day released).scale c := by
  unfold settle
  rw [settlement_scale hc]
  simp only [scale, List.map_map]
  rfl

end Network

/-! ### Outflow -/

namespace Draw

omit [IsStrictOrderedRing K] in
/-- The part of the whole that a river holds is the same in any unit. -/
theorem asks_scale (hc : c ≠ 0) (d : Draw K) (name : String) (volume : K) :
    (d.scale c).asks name (c * volume) = c * d.asks name volume := by
  have hpart : c * volume / (c * d.held) * (c * d.wanted) = c * (volume / d.held * d.wanted) := by
    rw [mul_div_mul_left _ _ hc, mul_left_comm]
  unfold asks
  rw [← Amount.total_scale, List.map_replicate, ← hpart]
  rfl

end Draw

namespace Volumes

/-- A connection asks for the same water in other units, and for some in any unit or in none. -/
theorem draw?_scale (hc : 0 < c) (share : K) (volumes : Volumes K) (k : Connection K) :
    draw? share (volumes.map (c * ·)) (k.scale c)
      = (draw? share volumes k).map (Draw.scale c) := by
  have hheld : k.sources.filterMap (volumes.map (c * ·)).get?
      = (k.sources.filterMap volumes.get?).map (c * ·) := by
    rw [List.map_filterMap]
    exact List.filterMap_congr fun name _ => Table.get?_map _ _ _
  unfold draw?
  rw [Amount.zero_eq]
  -- Whether there is anything to ask for is the same question in any unit.
  simp only [Connection.scale, hheld, Amount.batchTotal_scale, mul_assoc,
    Amount.scale_nonpos_iff hc]
  split <;> rfl

omit [IsStrictOrderedRing K] in
/-- What is asked of a river, in other units. The factor must not be nought, since a connection
asks for a part of what its sources hold. -/
theorem asked_scale (hc : c ≠ 0) (draws : List (Draw K)) (name : String) (volume : K) :
    asked (draws.map (Draw.scale c)) name (c * volume) = c * asked draws name volume := by
  unfold asked
  rw [← Amount.total_scale, List.map_map, List.map_map]
  exact congrArg Amount.total (List.map_congr_left fun d _ => d.asks_scale hc name volume)

/-- More is asked of a river than it holds in any unit or in none. -/
theorem overdrawn_scale (hc : 0 < c) (draws : List (Draw K)) (name : String) (volume : K) :
    overdrawn (draws.map (Draw.scale c)) name (c * volume) = overdrawn draws name volume := by
  unfold overdrawn
  rw [asked_scale hc.ne']
  exact decide_eq_decide.mpr (mul_lt_mul_iff_of_pos_left hc)

/-- A river gives the same fraction in any unit. -/
theorem granted_scale (hc : 0 < c) (draws : List (Draw K)) (name : String) (volume : K) :
    granted (draws.map (Draw.scale c)) name (c * volume) = granted draws name volume := by
  unfold granted
  rw [overdrawn_scale hc, asked_scale hc.ne', mul_div_mul_left _ _ hc.ne']

/-- What a river is left with, in other units. -/
theorem left_scale (hc : 0 < c) (draws : List (Draw K)) (name : String) (volume : K) :
    left (draws.map (Draw.scale c)) name (c * volume) = c * left draws name volume := by
  unfold left
  rw [granted_scale hc, asked_scale hc.ne', Amount.zero_eq]
  simp only [mul_assoc, ← mul_sub, Amount.scale_nonpos_iff hc]
  rw [mul_ite, mul_zero]

/-- What rivers hold and what part of it they grant: the water is in other units, and the part has
none. -/
theorem grants_scale (hc : 0 < c) (volumes : Volumes K) (draws : List (Draw K)) :
    grants (volumes.map (c * ·)) (draws.map (Draw.scale c))
      = (grants volumes draws).map fun g => (g.1, c * g.2.1, g.2.2) := by
  have hentries : (volumes.map (c * ·)).entries = volumes.entries.map fun e => (e.1, c * e.2) :=
    rfl
  unfold grants
  rw [hentries, List.map_map, List.map_map]
  refine List.map_congr_left fun e _ => ?_
  exact congrArg (fun fraction => (e.1, c * e.2, fraction)) (granted_scale hc draws e.1 e.2)

omit [IsStrictOrderedRing K] in
/-- What a connection gets, in other units. -/
theorem given_scale (hc : c ≠ 0) (grants : List (String × K × K)) (d : Draw K) :
    given (grants.map fun g => (g.1, c * g.2.1, g.2.2)) (d.scale c) = c * given grants d := by
  unfold given
  rw [← Amount.batchTotal_scale, List.map_map, List.map_map]
  refine congrArg Amount.batchTotal (List.map_congr_left fun g _ => ?_)
  show (d.scale c).asks g.1 (c * g.2.1) * g.2.2 = c * (d.asks g.1 g.2.1 * g.2.2)
  rw [d.asks_scale hc, mul_assoc]

end Volumes

namespace Connection

omit [IsStrictOrderedRing K] in
/-- A portion of an amount, in other units. -/
theorem portion_scale (c : K) (k : Connection K) (amount : K) :
    (k.scale c).portion (c * amount) = c * k.portion amount :=
  mul_div_assoc c amount _

omit [IsStrictOrderedRing K] in
/-- What is sent into a connection waits there in other units. -/
theorem send_scale (c : K) (k : Connection K) (amount : K) :
    (k.scale c).send (c * amount) = (k.send amount).scale c := by
  have hwaiting : k.destinations.foldl
        (fun w name => w.insert name ((w.get? name).getD 0 + c * k.portion amount))
        (k.waiting.map (c * ·))
      = (k.destinations.foldl
        (fun w name => w.insert name ((w.get? name).getD 0 + k.portion amount))
          k.waiting).map (c * ·) := by
    refine List.foldl_hom (Table.map (c * ·)) fun w name => ?_
    rw [Table.map_insert, Table.get?_map, Amount.getD_map_scale, mul_add]
  unfold send
  rw [portion_scale, Amount.zero_eq]
  exact congrArg (Connection.mk k.name k.sources k.destinations) hwaiting

omit [IsStrictOrderedRing K] in
/-- What is told of a connection that sends is told in other units. -/
theorem sendEvents_scale (c : K) (k : Connection K) (day : Int) (amount : K) :
    (k.scale c).sendEvents day (c * amount) = (k.sendEvents day amount).map (Event.scale c) := by
  unfold sendEvents
  rw [portion_scale, List.map_map]
  rfl

end Connection

namespace Network

omit [IsStrictOrderedRing K] in
/-- What rivers hold, in other units. -/
theorem volumes_scale (c : K) (n : Network K) : (n.scale c).volumes = n.volumes.map (c * ·) := by
  rw [volumes, volumes, scale, Table.map_map, Table.map_map]
  rfl

/-- What connections ask for, in other units. -/
theorem draws_scale (hc : 0 < c) (share : K) (n : Network K) :
    (n.scale c).draws share = (n.draws share).map (Draw.scale c) := by
  unfold draws
  rw [volumes_scale, scale, List.filterMap_map, List.map_filterMap]
  exact List.filterMap_congr fun k _ => Volumes.draw?_scale hc share n.volumes k

/-- What the rivers of a network hold and grant, in other units. -/
theorem grants_scale (hc : 0 < c) (share : K) (n : Network K) :
    (n.scale c).grants share = (n.grants share).map fun g => (g.1, c * g.2.1, g.2.2) := by
  rw [grants, volumes_scale, draws_scale hc, Volumes.grants_scale hc, grants]

/-- A connection sends the same water in other units. -/
theorem sent?_scale (hc : 0 < c) (share : K) (n : Network K) (k : Connection K) :
    (n.scale c).sent? share (k.scale c) = (n.sent? share k).map (c * ·) := by
  unfold sent? given?
  rw [grants_scale hc, volumes_scale, Volumes.draw?_scale hc, Option.map_map, Option.map_map]
  exact congrArg (Option.map · _) (funext fun d => Volumes.given_scale hc.ne' (n.grants share) d)

/-- A connection is carried along in other units as it is in its own. -/
theorem carry_scale (hc : 0 < c) (share : K) (n : Network K) (k : Connection K) :
    (n.scale c).carry share (k.scale c) = (n.carry share k).scale c := by
  unfold carry
  rw [sent?_scale hc]
  cases n.sent? share k with
  | some amount => exact k.send_scale c amount
  | none => rfl

/-- The outflow of a day leaves the same network in other units. -/
theorem schedule_scale (hc : 0 < c) (share : K) (n : Network K) :
    (n.scale c).schedule share = (n.schedule share).scale c := by
  have hrivers : ((n.scale c).schedule share).rivers = ((n.schedule share).scale c).rivers := by
    simp only [schedule, draws_scale hc]
    simp only [scale, Table.mapWithKey_map, Table.map_mapWithKey]
    refine Table.mapWithKey_congr fun name r _ => ?_
    exact congrArg (fun v => { r.scale c with volume := v })
      (Volumes.left_scale hc _ name r.volume)
  have hflows : ((n.scale c).schedule share).flows = ((n.schedule share).scale c).flows := by
    rw [flows_schedule, scale, scale, flows_schedule, List.map_map, List.map_map]
    exact List.map_congr_left fun k _ => carry_scale hc share n k
  exact congrArg₂ (fun rivers flows => Network.mk rivers _ _ flows _ _) hrivers hflows

/-- What is told of the outflow is told in other units. -/
theorem scheduleEvents_scale (hc : 0 < c) (share : K) (day : Int) (n : Network K) :
    (n.scale c).scheduleEvents share day = (n.scheduleEvents share day).map (Event.scale c) := by
  show (n.flows.map (Connection.scale c)).flatMap _ = List.map _ (n.flows.flatMap _)
  rw [List.flatMap_map, List.map_flatMap]
  refine List.flatMap_congr fun k _ => ?_
  have hsent : (n.scale c).given? share ((n.scale c).grants share) (k.scale c)
      = (n.given? share (n.grants share) k).map (c * ·) := sent?_scale hc share n k
  rw [hsent]
  cases n.given? share (n.grants share) k with
  | some amount => exact k.sendEvents_scale c day amount
  | none => rfl

/-- What is noticed of the outflow gives no amount, so it is the same in any unit. -/
theorem scheduleNotices_scale (hc : 0 < c) (share : K) (day : Int) (n : Network K) :
    (n.scale c).scheduleNotices share day = n.scheduleNotices share day := by
  have hentries :
      (n.scale c).volumes.entries = n.volumes.entries.map fun e => (e.1, c * e.2) := by
    rw [volumes_scale]
    rfl
  have hsame : (n.scale c).overdrawn share = n.overdrawn share := by
    unfold overdrawn
    dsimp only
    rw [draws_scale hc, hentries, List.filter_map, List.map_map]
    refine congrArg (List.map _) (List.filter_congr fun e _ => ?_)
    exact Volumes.overdrawn_scale hc _ e.1 e.2
  rw [scheduleNotices, hsame, scheduleNotices]

end Network

/-! ### Levels -/

namespace Dam

/-- The level at which a dam and its river stand together, in other units. -/
theorem levelAt_scale (hc : 0 < c) (d : Dam K) (volume : K) :
    (d.scale c).levelAt (c * volume) = c * d.levelAt volume := by
  unfold levelAt
  rw [Amount.zero_eq, ← Amount.larger_zero_scale hc, ← Amount.smaller_scale hc]
  rfl

/-- What spills, in other units. -/
theorem spill_scale (hc : 0 < c) (d : Dam K) (volume : K) :
    (d.scale c).spill (c * volume) = c * d.spill volume := by
  unfold spill
  rw [levelAt_scale hc, Amount.zero_eq, ← mul_sub, Amount.larger_zero_scale hc]

end Dam

namespace Network

/-- Dams and rivers come to the same levels in other units. -/
theorem level_scale (hc : 0 < c) (n : Network K) : (n.scale c).level = n.level.scale c := by
  simp only [level, scale, Table.mapWithKey_map, Table.map_mapWithKey, Table.get?_map]
  refine congrArg₂ (fun rivers dams => Network.mk rivers dams _ _ _ _)
    (Table.mapWithKey_congr fun name r _ => ?_) (Table.mapWithKey_congr fun name d _ => ?_)
  · cases n.dams.get? name with
    | some d =>
        exact congrArg (fun v => { r.scale c with volume := v }) (d.levelAt_scale hc r.volume)
    | none => rfl
  · cases n.rivers.get? name with
    | some r =>
      exact congrArg (fun v => { d.scale c with level := v }) (d.levelAt_scale hc r.volume)
    | none => rfl

/-- What dams have let go once they have spilled, in other units. -/
theorem spilled_scale (hc : 0 < c) (n : Network K) (released : Table K) :
    (n.scale c).spilled (released.map (c * ·)) = (n.spilled released).map (c * ·) := by
  unfold spilled
  rw [Table.map_mapWithKey, Table.mapWithKey_map]
  refine Table.mapWithKey_congr fun name amount _ => ?_
  rw [scale, Table.get?_map, Table.get?_map]
  cases n.dams.get? name with
  | none => rfl
  | some d =>
    cases n.rivers.get? name with
    | none => rfl
    | some r =>
      show c * amount + (d.scale c).spill (c * r.volume) = c * (amount + d.spill r.volume)
      rw [d.spill_scale hc, mul_add]

/-! ### A whole day -/

omit [IsStrictOrderedRing K] in
/-- Nothing is nothing in any unit. -/
theorem nothingReleased_scale (c : K) (n : Network K) :
    (n.scale c).nothingReleased = n.nothingReleased.map (c * ·) := by
  unfold nothingReleased
  rw [Amount.zero_eq, scale, Table.map_map, Table.map_map, mul_zero]

/-- What the arrivals of a day leave behind, in other units. -/
theorem arrivalsOn_scale (hc : 0 < c) (rule : StormRule K) (day : Int) (n : Network K) :
    (n.scale c).arrivalsOn (rule.scale c) day = (n.arrivalsOn rule day).scale c := by
  unfold arrivalsOn
  rw [nothingReleased_scale, settlement_scale hc, settle_scale hc]
  split <;> rfl

/-- What the outflow of a day leaves behind, in other units. -/
theorem outflowOn_scale (hc : 0 < c) (share : K) (day : Int) (n : Network K) :
    (n.scale c).outflowOn share day = (n.outflowOn share day).scale c := by
  unfold outflowOn
  rw [schedule_scale hc, scheduleEvents_scale hc, scheduleNotices_scale hc]
  show (if day ≤ n.outflowDays then _ else _) = _
  split <;> rfl

/-- A day does the same in any unit. -/
theorem day_scale (hc : 0 < c) (rule : StormRule K) (share : K) (n : Network K) (day : Int) :
    (n.scale c).day (rule.scale c) share day = (n.day rule share day).scale c := by
  -- The parts of the day follow one another, each on what the one before it leaves.
  simp only [Network.day, takeRain_scale hc, rainEvents_scale hc, arrivalsOn_scale hc,
    DayOutcome.scale, outflowOn_scale hc, level_scale hc, spilled_scale hc, List.map_append]

end Network

end

end Catchment
