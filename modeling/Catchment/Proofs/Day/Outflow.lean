import Catchment.Proofs.Network.Water

/-!
# `Catchment.Proofs.Day.Outflow`: what leaves the rivers is what the connections get

The outflow is looked at river by river and connection by connection. A river
never gives more than it holds, whatever it is asked for, and all that it gives is
shared out among the connections that ask. What a connection gets is above nought,
and all of it waits for its destinations.

* `Volumes.asked_mul_granted_le`, `Volumes.left_eq`: what a river gives, and what it keeps.
* `Volumes.given_pos`: a connection that asks gets something.
* `Volumes.sum_given`: what all connections get is what all rivers give.
* `Connection.send_waiting`: what waits in a connection after it has got something.
* `Network.stored_add_inTransit_schedule`: the outflow moves water and neither makes nor takes
  any.
-/

set_option autoImplicit false

namespace Catchment

/-- No river holds less than nothing. -/
def Volumes.Nonneg (volumes : Volumes Rat) : Prop :=
  ∀ {name volume}, volumes.get? name = some volume → 0 ≤ volume

/-- What a connection asks for where no river holds less than nothing: it is a share of the water
in its sources, and there is some. -/
structure Draw.Fair (volumes : Volumes Rat) (d : Draw Rat) : Prop where
  held_eq : d.held = (d.sources.filterMap volumes.get?).sum
  held_pos : 0 < d.held
  wanted_pos : 0 < d.wanted

namespace Volumes

/-! ### What is asked for, and what a river gives -/

section

variable {K : Type} [Field K] [LinearOrder K] [Amount.Exact K] {share : K}
  {volumes : Volumes K} {c : Connection K} {d : Draw K}

/-- A connection asks exactly if it wants something and leads somewhere. What it wants is a share
of what its sources hold together. -/
theorem draw?_eq_some_iff : volumes.draw? share c = some d ↔
    (0 < d.wanted ∧ c.destinations ≠ []) ∧ d.sources = c.sources ∧
      d.held = (c.sources.filterMap volumes.get?).sum ∧ d.wanted = d.held * share := by
  obtain ⟨sources, held, wanted⟩ := d
  unfold draw?
  simp only [Amount.batchTotal_eq_sum, Amount.zero_eq]
  split
  · rename_i hnone
    constructor
    · rintro ⟨⟩
    · rintro ⟨⟨hpos, hne⟩, -, hheld, hwanted⟩
      change 0 < wanted at hpos
      change wanted = held * share at hwanted
      rw [hwanted, show held = _ from hheld] at hpos
      exact absurd hnone (not_or.mpr ⟨not_le.mpr hpos, hne⟩)
  · rename_i hsome
    obtain ⟨hpos, hne⟩ := not_or.mp hsome
    rw [Option.some.injEq, Draw.mk.injEq]
    constructor
    · rintro ⟨rfl, rfl, rfl⟩
      exact ⟨⟨not_le.mp hpos, hne⟩, rfl, rfl, rfl⟩
    · rintro ⟨-, rfl, rfl, rfl⟩
      exact ⟨rfl, rfl, rfl⟩

/-- What a connection asks of a river goes by the part of the water in its sources that is there,
once for every time the river is a source. -/
theorem asks_eq (d : Draw K) (name : String) (volume : K) :
    d.asks name volume = d.sources.count name * (volume / d.held * d.wanted) := by
  rw [Draw.asks, Amount.total_eq_sum, List.sum_replicate, nsmul_eq_mul]

/-- What is asked of a river is the sum of what the connections ask of it. -/
theorem asked_eq_sum (draws : List (Draw K)) (name : String) (volume : K) :
    asked draws name volume = (draws.map fun d => d.asks name volume).sum :=
  Amount.total_eq_sum _

/-- A river grants all that is asked of it if it holds that much, and else what it holds as a part
of that. -/
theorem granted_eq (draws : List (Draw K)) (name : String) (volume : K) :
    granted draws name volume
      = if volume < asked draws name volume then volume / asked draws name volume else 1 := by
  simp only [granted, overdrawn, decide_eq_true_eq, Amount.one_eq]

/-- No river is left with less than nothing, whatever is asked of it. -/
theorem left_nonneg (draws : List (Draw K)) (name : String) (volume : K) :
    0 ≤ left draws name volume := by
  simp only [left, Amount.zero_eq]
  split
  · exact le_refl _
  · rename_i hsome
    exact (not_le.mp hsome).le

variable {draws : List (Draw K)} {name : String} {volume : K}

/-- A river does not give more than it holds. -/
theorem asked_mul_granted_le (hvolume : 0 ≤ volume) :
    asked draws name volume * granted draws name volume ≤ volume := by
  rw [granted_eq]
  split
  · rename_i hover
    rw [mul_div_cancel₀ _ (hvolume.trans_lt hover).ne']
  · rename_i hfits
    rw [mul_one]
    exact not_lt.mp hfits

/-- A river is left with what it does not give. The bound at nought never takes hold, since a
river does not give more than it holds. -/
theorem left_eq [IsStrictOrderedRing K] (hvolume : 0 ≤ volume) :
    left draws name volume = volume - asked draws name volume * granted draws name volume := by
  have hle : asked draws name volume * granted draws name volume ≤ volume :=
    asked_mul_granted_le hvolume
  simp only [left, Amount.zero_eq]
  split
  · rename_i hnone
    exact le_antisymm (sub_nonneg.mpr hle) hnone
  · rfl

end

/-! ### Where no river holds less than nothing -/

variable {share : Rat} {volumes : Volumes Rat} {c : Connection Rat} {d : Draw Rat}
  {draws : List (Draw Rat)} {name : String} {volume : Rat}

/-- Sources that hold no less than nothing do so together. -/
theorem held_nonneg (hv : volumes.Nonneg) (sources : List String) :
    0 ≤ (sources.filterMap volumes.get?).sum := by
  refine List.sum_nonneg fun x hx => ?_
  obtain ⟨name, -, hname⟩ := List.mem_filterMap.mp hx
  exact hv hname

/-- Where no river holds less than nothing, what a connection asks for is a share of what is
there. -/
theorem fair_of_draw? (hv : volumes.Nonneg) (h : volumes.draw? share c = some d) :
    d.Fair volumes := by
  obtain ⟨⟨hpos, -⟩, hsources, hheld, hwanted⟩ := draw?_eq_some_iff.mp h
  rw [← hsources] at hheld
  refine ⟨hheld, ?_, hpos⟩
  -- The sources hold something, for a share of nothing is not above nought.
  refine lt_of_le_of_ne (hheld ▸ held_nonneg hv _) fun hzero => ?_
  rw [hwanted, ← hzero, zero_mul] at hpos
  exact lt_irrefl _ hpos

/-- A connection asks no less than nothing of a river. -/
theorem asks_nonneg (hd : d.Fair volumes) (hvolume : 0 ≤ volume) : 0 ≤ d.asks name volume := by
  rw [asks_eq]
  have := hd.held_pos
  have := hd.wanted_pos
  positivity

/-- A connection asks each of its sources that holds something. -/
theorem asks_pos (hd : d.Fair volumes) (hname : name ∈ d.sources) (hvolume : 0 < volume) :
    0 < d.asks name volume := by
  rw [asks_eq]
  have hcount : 0 < d.sources.count name := List.count_pos_iff.mpr hname
  have := hd.held_pos
  have := hd.wanted_pos
  positivity

/-- Connections together ask no less than nothing of a river. -/
theorem asked_nonneg (hdraws : ∀ d ∈ draws, d.Fair volumes) (hvolume : 0 ≤ volume) :
    0 ≤ asked draws name volume := by
  rw [asked_eq_sum]
  exact sum_map_nonneg fun d hd => asks_nonneg (hdraws d hd) hvolume

/-- No river grants less than nothing. -/
theorem granted_nonneg (hdraws : ∀ d ∈ draws, d.Fair volumes) (hvolume : 0 ≤ volume) :
    0 ≤ granted draws name volume := by
  rw [granted_eq]
  split
  · exact div_nonneg hvolume (asked_nonneg hdraws hvolume)
  · exact zero_le_one

/-- A river with some water grants some of what is asked of it. -/
theorem granted_pos (hvolume : 0 < volume) : 0 < granted draws name volume := by
  rw [granted_eq]
  split
  · rename_i hover
    exact div_pos hvolume (hvolume.trans hover)
  · exact zero_lt_one

/-- No river is left with more than it held. -/
theorem left_le (hdraws : ∀ d ∈ draws, d.Fair volumes) (hvolume : 0 ≤ volume) :
    left draws name volume ≤ volume := by
  rw [left_eq hvolume]
  exact sub_le_self _ (mul_nonneg (asked_nonneg hdraws hvolume) (granted_nonneg hdraws hvolume))

/-! ### What a connection gets -/

/-- What a connection gets, as a weighing of the rivers: of each, what it asks and what is granted
of that. -/
theorem given_eq_weigh (volumes : Volumes Rat) (draws : List (Draw Rat)) (d : Draw Rat) :
    given (volumes.grants draws) d
      = volumes.weigh fun name volume => d.asks name volume * granted draws name volume := by
  rw [given, Amount.batchTotal_eq_sum, grants, List.map_map]
  rfl

/-- A connection that asks gets something. One of its sources holds some water, and gives of
it. -/
theorem given_pos (hv : volumes.Nonneg) (hdraws : ∀ d ∈ draws, d.Fair volumes)
    (hd : d.Fair volumes) : 0 < given (volumes.grants draws) d := by
  -- The sources hold something together, so one of them does.
  obtain ⟨x, hx, hpos⟩ := exists_pos_of_sum_pos (hd.held_eq ▸ hd.held_pos)
  obtain ⟨name, hname, hget⟩ := List.mem_filterMap.mp hx
  rw [given_eq_weigh]
  refine sum_map_pos ?_ ((volumes.mem_entries name x).mpr hget) ?_
  · rintro ⟨k, v⟩ he
    have hvolume : 0 ≤ v := hv ((volumes.mem_entries k v).mp he)
    exact mul_nonneg (asks_nonneg hd hvolume) (granted_nonneg hdraws hvolume)
  · exact mul_pos (asks_pos hd hname hpos) (granted_pos hpos)

/-- What all connections get is what all rivers give. -/
theorem sum_given (hv : volumes.Nonneg) (draws : List (Draw Rat)) :
    (draws.map (given (volumes.grants draws))).sum
      = volumes.weigh fun name volume => volume - left draws name volume := by
  -- What a river gives is shared out among the draws, which may be added up first.
  have hgives : (volumes.weigh fun name volume => volume - left draws name volume)
      = volumes.weigh fun name volume =>
          (draws.map fun d => d.asks name volume * granted draws name volume).sum := by
    refine Table.weigh_congr fun name volume hget => ?_
    rw [left_eq (hv hget), sub_sub_cancel, asked_eq_sum, List.sum_map_mul_right]
  rw [hgives, Table.weigh, ← sum_map_sum_comm]
  exact congrArg List.sum (List.map_congr_left fun d _ => given_eq_weigh volumes draws d)

end Volumes

namespace Connection

/-- A portion more for every time a name comes up. -/
private theorem get?_foldl_insert (names : List String) (portion : Rat) (waiting : Table Rat)
    (name : String) :
    (names.foldl (fun w k => w.insert k ((w.get? k).getD 0 + portion)) waiting).get? name
      = if name ∈ names then some ((waiting.get? name).getD 0 + names.count name * portion)
        else waiting.get? name := by
  -- The induction is on the names.
  induction names generalizing waiting with
  | nil => simp
  | cons k ks ih =>
    rw [List.foldl_cons, ih, Table.get?_insert]
    by_cases hk : name = k
    · subst hk
      by_cases hmem : name ∈ ks
      · simp only [hmem, List.mem_cons, or_true, if_true, Option.getD_some, List.count_cons_self]
        push_cast
        congr 1
        ring
      · simp [hmem, List.count_eq_zero_of_not_mem hmem]
    · simp [hk, List.count_cons_of_ne (Ne.symm hk)]

/-- Adding a portion for every name in a row adds as many portions as there are names, however
often a name stands there. -/
private theorem weigh_foldl_insert (names : List String) (portion : Rat) (waiting : Table Rat) :
    (names.foldl (fun w k => w.insert k ((w.get? k).getD 0 + portion)) waiting).weigh
      (fun _ x => x)
      = waiting.weigh (fun _ x => x) + names.length * portion := by
  induction names generalizing waiting with
  | nil => simp
  | cons k ks ih =>
    rw [List.foldl_cons, ih, Table.weigh_insert]
    cases waiting.get? k with
    | none =>
      simp only [Option.getD_none, Option.map_none, List.length_cons]
      push_cast
      ring
    | some x =>
      simp only [Option.getD_some, Option.map_some, List.length_cons]
      push_cast
      ring

/-- What waits under a name after some are added waited before, or is one of those that are
added. -/
private theorem mem_keys_foldl_insert {α : Type} (entry : Table α → String → α)
    (names : List String) (waiting : Table α) {name : String}
    (h : name ∈ (names.foldl (fun w k => w.insert k (entry w k)) waiting).keys) :
    name ∈ waiting.keys ∨ name ∈ names := by
  induction names generalizing waiting with
  | nil => exact Or.inl h
  | cons k ks ih =>
    rcases ih _ h with hinsert | hrest
    · rcases (Table.mem_keys_insert ..).mp hinsert with hold | rfl
      · exact Or.inl hold
      · exact Or.inr List.mem_cons_self
    · exact Or.inr (List.mem_cons_of_mem _ hrest)

/-- What waits after an amount has left waits for a destination, or has been waiting before. -/
theorem mem_keys_waiting_send {α : Type} [Amount α] {c : Connection α} {amount : α}
    {name : String}
    (h : name ∈ (c.send amount).waiting.keys) : name ∈ c.waiting.keys ∨ name ∈ c.destinations :=
  mem_keys_foldl_insert _ c.destinations c.waiting h

variable {c : Connection Rat} {amount : Rat}

/-- What waits for a destination after an amount has left: a portion more for every time the
destination is named. -/
theorem get?_waiting_send (c : Connection Rat) (amount : Rat) (name : String) :
    (c.send amount).waiting.get? name
      = if name ∈ c.destinations
        then some ((c.waiting.get? name).getD 0 + c.destinations.count name * c.portion amount)
        else c.waiting.get? name :=
  get?_foldl_insert _ _ _ _

/-- What is sent into a connection that leads somewhere is what waits there in addition. -/
theorem weigh_waiting_send (hne : c.destinations ≠ []) :
    (c.send amount).waiting.weigh (fun _ x => x) = c.waiting.weigh (fun _ x => x) + amount := by
  rw [send, weigh_foldl_insert, portion]
  -- The amount is divided by the number of destinations, and there is one.
  have hlength : (c.destinations.length : Rat) ≠ 0 :=
    Nat.cast_ne_zero.mpr (List.length_pos_iff.mpr hne).ne'
  congr 1
  exact mul_div_cancel₀ amount hlength

/-- Of some water every destination gets a portion above nought. -/
theorem portion_pos (hne : c.destinations ≠ []) (h : 0 < amount) : 0 < c.portion amount :=
  div_pos h (Nat.cast_pos.mpr (List.length_pos_iff.mpr hne))

end Connection

namespace Network

section

variable {α : Type} [Amount α]

/-- What leaves by a connection, if anything does. -/
def sent? (share : α) (n : Network α) (c : Connection α) : Option α :=
  n.given? share (n.grants share) c

/-- A connection after the outflow. -/
def carry (share : α) (n : Network α) (c : Connection α) : Connection α :=
  match n.sent? share c with
  | some amount => c.send amount
  | none => c

/-- The outflow changes each connection by itself and keeps their order. -/
theorem flows_schedule (share : α) (n : Network α) :
    (n.schedule share).flows = n.flows.map (n.carry share) := rfl

/-- What a connection carries along changes nothing of the connection but what waits in it. -/
theorem idle_carry (share : α) (n : Network α) (c : Connection α) :
    (n.carry share c).idle = c.idle := by
  unfold carry
  split <;> rfl

/-- What waits after the outflow waited before, or waits for a destination. -/
theorem mem_keys_waiting_carry {share : α} {n : Network α} {c : Connection α} {name : String}
    (h : name ∈ (n.carry share c).waiting.keys) :
    name ∈ c.waiting.keys ∨ name ∈ c.destinations := by
  unfold carry at h
  split at h
  · exact Connection.mem_keys_waiting_send h
  · exact Or.inl h

/-- The outflow changes nothing that was declared. -/
theorem plan_schedule (share : α) (n : Network α) : (n.schedule share).plan = n.plan := by
  simp only [plan, flows_schedule, List.map_map, Function.comp_def, idle_carry]
  simp only [schedule, Table.map_mapWithKey]
  rfl

end

variable {share : Rat} {n : Network Rat} {c : Connection Rat} {amount : Rat}

/-- The water under a name is that of the river with this name, if there is one. -/
theorem get?_volumes {α : Type} [Amount α] (n : Network α) (name : String) :
    n.volumes.get? name = (n.rivers.get? name).map River.volume :=
  Table.get?_map _ _ _

/-- The water under the name of a river is what the river holds. -/
theorem get?_volumes_of {α : Type} [Amount α] {n : Network α} {name : String} {r : River α}
    (hr : n.rivers.get? name = some r) : n.volumes.get? name = some r.volume := by
  rw [get?_volumes, hr]
  rfl

/-- Where no river holds less than nothing, no water that is looked up is below nought. -/
theorem Nonneg.volume_nonneg {K : Type} [Field K] [LinearOrder K] [Amount.Exact K] {n : Network K}
    (hn : n.Nonneg) {name : String} {volume : K} (h : n.volumes.get? name = some volume) :
    0 ≤ volume := by
  rw [get?_volumes] at h
  obtain ⟨r, hr, rfl⟩ := Option.map_eq_some_iff.mp h
  exact hn hr

/-- That no river holds less than nothing may be said of the rivers or of their volumes. -/
theorem nonneg_volumes_iff : n.volumes.Nonneg ↔ n.Nonneg :=
  ⟨fun h _ _ hr => h (get?_volumes_of hr), fun h {_ _} => h.volume_nonneg⟩

/-- Of sound water, no river holds less than nothing. -/
theorem Sound.nonneg_volumes (hn : n.Sound) : n.volumes.Nonneg :=
  nonneg_volumes_iff.mpr fun _ _ => hn.volume

/-- The outflow leaves no river with less than nothing. -/
theorem nonneg_schedule {K : Type} [Field K] [LinearOrder K] [Amount.Exact K] (share : K)
    (n : Network K) : (n.schedule share).Nonneg := by
  intro name r hr
  rw [schedule, Table.get?_mapWithKey] at hr
  obtain ⟨q, -, rfl⟩ := Option.map_eq_some_iff.mp hr
  exact Volumes.left_nonneg _ _ _

/-- Where no river holds less than nothing, every connection that asks does so for a share of what
is there. -/
theorem fair_draws (hv : n.volumes.Nonneg) : ∀ d ∈ n.draws share, d.Fair n.volumes := by
  intro d hd
  obtain ⟨c, -, hdraw⟩ := List.mem_filterMap.mp hd
  exact Volumes.fair_of_draw? hv hdraw

/-- What is sent is more than nothing, and it is led somewhere. -/
theorem Sound.sent_pos (hn : n.Sound) (h : n.sent? share c = some amount) :
    0 < amount ∧ c.destinations ≠ [] := by
  obtain ⟨d, hdraw, rfl⟩ := Option.map_eq_some_iff.mp h
  refine ⟨?_, (Volumes.draw?_eq_some_iff.mp hdraw).1.2⟩
  exact Volumes.given_pos hn.nonneg_volumes (fair_draws hn.nonneg_volumes)
    (Volumes.fair_of_draw? hn.nonneg_volumes hdraw)

/-- What a connection carries grows by what leaves by it. -/
theorem Sound.weigh_waiting_carry (hn : n.Sound) (c : Connection Rat) :
    (n.carry share c).waiting.weigh (fun _ x => x)
      = c.waiting.weigh (fun _ x => x) + (n.sent? share c).getD 0 := by
  unfold carry
  cases h : n.sent? share c with
  | none => simp
  | some amount => exact Connection.weigh_waiting_send (hn.sent_pos h).2

/-- What all connections send is what all rivers lose. The two sums are over connections and over
rivers, so this is a sum in two orders. -/
theorem Sound.sum_sent (hn : n.Sound) :
    (n.flows.map fun c => (n.sent? share c).getD 0).sum
      = n.volumes.weigh fun name volume =>
          volume - Volumes.left (n.draws share) name volume := by
  rw [← Volumes.sum_given hn.nonneg_volumes, draws, sum_map_filterMap]
  rfl

/-- The outflow moves water and neither makes nor takes any. -/
theorem Sound.stored_add_inTransit_schedule (hn : n.Sound) :
    (n.schedule share).stored + (n.schedule share).inTransit = n.stored + n.inTransit := by
  have hstored : (n.schedule share).stored
      = n.volumes.weigh fun name volume => Volumes.left (n.draws share) name volume := by
    rw [stored_eq_weigh, Network.schedule, Table.weigh_mapWithKey, volumes, Table.weigh_map]
  have hleft : n.stored = (n.volumes.weigh fun name volume =>
      Volumes.left (n.draws share) name volume)
        + n.volumes.weigh fun name volume =>
          volume - Volumes.left (n.draws share) name volume := by
    rw [← Table.weigh_add, stored_eq_weigh, volumes, Table.weigh_map]
    exact Table.weigh_congr fun _ _ _ => (add_sub_cancel _ _).symm
  have hinTransit : (n.schedule share).inTransit
      = n.inTransit + (n.flows.map fun c => (n.sent? share c).getD 0).sum := by
    simp only [inTransit_eq_weigh, flows_schedule, List.map_map, Function.comp_def,
      hn.weigh_waiting_carry, List.sum_map_add]
  rw [hstored, hinTransit, hn.sum_sent, hleft]
  ring

/-- The outflow keeps the water sound. -/
theorem Sound.schedule (hn : n.Sound) (hwf : n.WellFormed) : (n.schedule share).Sound := by
  refine ⟨fun {_ _} hr => nonneg_schedule share n hr, hn.level, fun c hc {name x} hw => ?_⟩
  -- What waits was there before, or it is a portion of what has been sent.
  rw [flows_schedule] at hc
  obtain ⟨c', hc', rfl⟩ := List.mem_map.mp hc
  rw [Network.schedule, Table.keys_mapWithKey]
  unfold carry at hw
  cases hsent : n.sent? share c' with
  | none =>
    rw [hsent] at hw
    exact hn.waiting c' hc' hw
  | some amount =>
    obtain ⟨hpos, hne⟩ := hn.sent_pos hsent
    have hportion : 0 < c'.portion amount := Connection.portion_pos hne hpos
    rw [hsent, Connection.get?_waiting_send] at hw
    split at hw
    · -- A destination: a portion or more has come to what waited before.
      rename_i hname
      cases hw
      refine ⟨?_, (hwf.joins c' hc').destinations name hname⟩
      have hbefore : 0 ≤ (c'.waiting.get? name).getD 0 := by
        cases hget : c'.waiting.get? name with
        | none => exact le_refl _
        | some y => exact (hn.waiting c' hc' hget).1.le
      have hcount : 0 < c'.destinations.count name := List.count_pos_iff.mpr hname
      positivity
    · exact hn.waiting c' hc' hw

end Network

end Catchment
