import Catchment.Proofs.Day
import Catchment.Proofs.Day.Locality
import Catchment.Proofs.Network.Part

/-!
# `Catchment.Proofs.Day.Confined`: a day of a part of a network

A day of a network does in a part of it what it does in that part alone. Rain falls river
by river. What arrives in a place is told from what waits for it, and only connections of
the part have any. When the water leaves, a connection of the rest asks nothing of the
rivers of the part, so each of these is asked for as much, and a connection of the part
gets nothing from the rivers of the rest. Dams come to one level with their own rivers.

* `PartOf.filter_arrivals`, `PartOf.settlement`: arrivals.
* `PartOf.asked_draws`, `PartOf.sent?_eq`: what the rivers of a part are asked for, and what its
  connections get.
* `PartOf.partOf_day`: a whole day, with what dams let go.
-/

set_option autoImplicit false

namespace Catchment

/-- A sum over a table, where only some names weigh anything. -/
theorem Table.weigh_restrict {β : Type} {names : List String} {w : String → β → Rat} {t : Table β}
    (h : ∀ k, k ∉ names → ∀ v, w k v = 0) : (t.restrict names).weigh w = t.weigh w := by
  refine (sum_map_filter (fun e _ _ => rfl) fun e _ hout => ?_).symm
  exact h e.1 (of_decide_eq_false hout) e.2

namespace Volumes

variable {α : Type} [Amount α] {share : α} {volumes volumes' : Volumes α} {c : Connection α}

/-- What a connection asks for depends on what its sources hold. -/
theorem draw?_congr (h : ∀ name ∈ c.sources, volumes.get? name = volumes'.get? name) :
    volumes.draw? share c = volumes'.draw? share c := by
  have hheld : c.sources.filterMap volumes.get? = c.sources.filterMap volumes'.get? :=
    List.filterMap_congr h
  unfold draw?
  rw [hheld]

/-- What is granted and what is left depend on how much is asked. -/
theorem granted_congr {draws draws' : List (Draw α)} {name : String} {volume : α}
    (h : asked draws name volume = asked draws' name volume) :
    granted draws name volume = granted draws' name volume := by
  unfold granted overdrawn
  rw [h]

/-- What a river is left with depends on the connections only by what they ask of it. -/
theorem left_congr {draws draws' : List (Draw α)} {name : String} {volume : α}
    (h : asked draws name volume = asked draws' name volume) :
    left draws name volume = left draws' name volume := by
  unfold left
  rw [h, granted_congr h]

/-- Nothing is asked of a river that is no source. -/
theorem asks_eq_zero {share : Rat} {volumes : Volumes Rat} {c : Connection Rat} {d : Draw Rat}
    (h : volumes.draw? share c = some d) {name : String} (hname : name ∉ c.sources)
    (volume : Rat) :
    d.asks name volume = 0 := by
  rw [asks_eq, (draw?_eq_some_iff.mp h).2.1, List.count_eq_zero_of_not_mem hname, Nat.cast_zero,
    zero_mul]

end Volumes

namespace Network

variable {rule : StormRule Rat} {share : Rat} {day : Int} {names : List String}
    {n n₁ : Network Rat}
  {released released₁ : Table Rat}

/-- The rivers, the dams, or what is recorded for them have the names of a part after something
that keeps names, if they had them before. -/
private theorem filter_keys {β γ : Type} {t t' : Table β} {u u' : Table γ} (ht : t'.keys = t.keys)
    (hu : u'.keys = u.keys) (h : t.keys.filter (· ∈ names) = u.keys) :
    t'.keys.filter (· ∈ names) = u'.keys := by
  rw [ht, hu, h]

/-- The rivers of a part are those of the whole with names of the part. -/
theorem PartOf.keys_rivers (h : n₁.PartOf names n) :
    n.rivers.keys.filter (· ∈ names) = n₁.rivers.keys := by
  rw [← h.rivers, Table.keys_restrict]

/-- The dams of a part are those of the whole with names of the part. -/
theorem PartOf.keys_dams (h : n₁.PartOf names n) :
    n.dams.keys.filter (· ∈ names) = n₁.dams.keys := by
  rw [← h.dams, Table.keys_restrict]

/-- The rivers of a part hold what they hold in the whole. -/
theorem PartOf.volumes (h : n₁.PartOf names n) : n.volumes.restrict names = n₁.volumes := by
  rw [Network.volumes, Table.restrict_map, h.rivers, Network.volumes]

/-- A river of a part holds as much in the whole. -/
theorem PartOf.get?_volumes (h : n₁.PartOf names n) {name : String} (hname : name ∈ names) :
    n₁.volumes.get? name = n.volumes.get? name := by
  rw [← h.volumes, Table.get?_restrict, if_pos hname]

/-- The connections of a part, when all connections have changed and their sources have not. -/
theorem flowsFrom_map {f f₁ : Connection Rat → Connection Rat} (h : n₁.PartOf names n)
    (hsources : ∀ c ∈ n.flows, (f c).sources = c.sources) (hf : ∀ c ∈ n₁.flows, f c = f₁ c) :
    (n.flows.map f).filter (·.leadsFrom names) = n₁.flows.map f₁ := by
  have hsame : n.flows.filter ((·.leadsFrom names) ∘ f) = n.flows.filter (·.leadsFrom names) :=
    List.filter_congr fun c hc => by
      simp only [Function.comp_apply, Connection.leadsFrom, hsources c hc]
  rw [List.filter_map, hsame]
  show (n.flowsFrom names).map f = _
  rw [h.flows]
  exact List.map_congr_left hf

/-! ### Rain -/

/-- It rains on a part as it does on the part alone. -/
theorem PartOf.takeRain (h : n₁.PartOf names n) (day : Int) :
    (n₁.takeRain day).PartOf names (n.takeRain day) := by
  refine ⟨?_, h.dams, h.flows, h.outflowDays, h.apart⟩
  show (n.rivers.map _).restrict names = n₁.rivers.map _
  rw [Table.restrict_map, h.rivers]

/-! ### Arrivals -/

/-- What waits for a name of a part waits in its own connections. -/
theorem PartOf.filter_arrivals (h : n₁.PartOf names n) {name : String} (hname : name ∈ names) :
    (n.arrivals.filter fun a => a.1 = name) = n₁.arrivals.filter fun a => a.1 = name := by
  rw [arrivals, arrivals, ← h.flows, flowsFrom]
  have hapart := h.apart
  generalize n.flows = flows at hapart ⊢
  -- The induction is on the connections of the whole.
  induction flows with
  | nil => rfl
  | cons c flows ih =>
    have hrest := ih fun c' hc' => hapart c' (List.mem_cons_of_mem _ hc')
    rw [List.flatMap_cons, List.filter_append, hrest, List.filter_cons]
    rcases hapart c List.mem_cons_self with hin | hout
    · rw [if_pos hin.leadsFrom, List.flatMap_cons, List.filter_append]
    · have hnone : (c.waiting.entries.filter fun a => a.1 = name) = [] := by
        refine List.filter_eq_nil_iff.mpr fun a ha hkey => ?_
        have hkey : a.1 = name := of_decide_eq_true hkey
        exact hout.waiting a.1 (List.mem_map_of_mem ha) (hkey ▸ hname)
      rw [if_neg (by rw [hout.leadsFrom]; exact Bool.false_ne_true), hnone, List.nil_append]

/-- The arrivals of a day lead to the same in each place of a part as in the part alone. -/
theorem PartOf.sameAt_settlement (h : n₁.PartOf names n)
    (hreleased : released.restrict names = released₁) {name : String} (hname : name ∈ names) :
    (n.settlement rule day released).SameAt name (n₁.settlement rule day released₁) := by
  refine Network.sameAt_settlement (h.get?_rivers hname).symm (h.get?_dams hname).symm ?_
    (h.filter_arrivals hname)
  rw [← hreleased, Table.get?_restrict, if_pos hname]

/-- What arrives in a part, and what its dams let go then, is what arrives and is let go in it
alone. -/
theorem PartOf.settle (h : n₁.PartOf names n) (hreleased : released.restrict names = released₁) :
    (n₁.settle rule day released₁).PartOf names (n.settle rule day released) ∧
      (n.settlement rule day released).released.restrict names
        = (n₁.settlement rule day released₁).released := by
  have hat : ∀ name ∈ names,
      (n.settlement rule day released).SameAt name (n₁.settlement rule day released₁) :=
    fun name hname => h.sameAt_settlement hreleased hname
  have hplan : (n.settle rule day released).plan = n.plan := plan_settle ..
  have hplan₁ : (n₁.settle rule day released₁).plan = n₁.plan := plan_settle ..
  -- The names stay as they are, so it is enough that each of them has the same.
  refine ⟨⟨?_, ?_, ?_, h.outflowDays, fun c hc => ?_⟩, ?_⟩
  · exact Table.restrict_eq_of_get?
      (filter_keys (keys_rivers_of_plan_eq hplan) (keys_rivers_of_plan_eq hplan₁) h.keys_rivers)
      fun name hname => (hat name hname).river
  · exact Table.restrict_eq_of_get?
      (filter_keys (keys_dams_of_plan_eq hplan) (keys_dams_of_plan_eq hplan₁) h.keys_dams)
      fun name hname => (hat name hname).dam
  · exact flowsFrom_map h (fun _ _ => rfl) fun _ _ => rfl
  · obtain ⟨c', hc', rfl⟩ := List.mem_map.mp hc
    rcases h.apart c' hc' with hin | hout
    · exact Or.inl ⟨hin.sources, hin.destinations, nofun⟩
    · exact Or.inr ⟨hout.sources_ne, hout.sources, hout.destinations, nofun⟩
  · refine Table.restrict_eq_of_get? (filter_keys (keys_released_settlement ..)
      (keys_released_settlement ..) ?_) fun name hname => (hat name hname).released
    rw [← hreleased, Table.keys_restrict]

/-! ### Outflow -/

/-- A connection of the rest asks nothing of the rivers of a part. -/
theorem PartOf.asked_draws (h : n₁.PartOf names n) {name : String} (hname : name ∈ names)
    (volume : Rat) :
    Volumes.asked (n.draws share) name volume = Volumes.asked (n₁.draws share) name volume := by
  rw [Volumes.asked_eq_sum, Volumes.asked_eq_sum, draws, draws, sum_map_filterMap,
    sum_map_filterMap, ← h.flows]
  refine sum_map_filter (fun c hc hin => ?_) fun c hc hout => ?_
  · have hinside : c.Inside names := h.inside (h.flows ▸ List.mem_filter.mpr ⟨hc, hin⟩)
    rw [Volumes.draw?_congr fun s hs => (h.get?_volumes (hinside.sources s hs)).symm]
  · have houtside : c.Outside names := by
      refine (h.apart c hc).resolve_left fun hin => ?_
      rw [hin.leadsFrom] at hout
      cases hout
    cases hdraw : n.volumes.draw? share c with
    | none => rfl
    | some d =>
      exact Volumes.asks_eq_zero hdraw (fun hsource => houtside.sources name hsource hname) volume

/-- A connection of a part gets nothing from the rivers of the rest. -/
theorem PartOf.sent?_eq (h : n₁.PartOf names n) {c : Connection Rat} (hc : c ∈ n₁.flows) :
    n.sent? share c = n₁.sent? share c := by
  have hinside : c.Inside names := h.inside hc
  have hdraw : n.volumes.draw? share c = n₁.volumes.draw? share c :=
    Volumes.draw?_congr fun s hs => (h.get?_volumes (hinside.sources s hs)).symm
  unfold sent? given?
  rw [hdraw]
  cases hd : n₁.volumes.draw? share c with
  | none => rw [Option.map_none, Option.map_none]
  | some d =>
    -- It asks nothing of the other rivers, so these weigh nothing in the sum over all.
    have hgiven : Volumes.given (n.grants share) d = Volumes.given (n₁.grants share) d := by
      rw [grants, grants, Volumes.given_eq_weigh, Volumes.given_eq_weigh, ← h.volumes,
        ← Table.weigh_restrict]
      · refine Table.weigh_congr fun name volume hget => ?_
        have hname : name ∈ names :=
          Table.mem_names_of_mem_keys_restrict ((Table.mem_keys _ _).mpr ⟨volume, hget⟩)
        rw [Volumes.granted_congr (h.asked_draws hname volume)]
      · intro name hname volume
        rw [Volumes.asks_eq_zero hd (fun hs => hname (hinside.sources name hs)), zero_mul]
    rw [Option.map_some, Option.map_some, hgiven]

/-- What flows out in a part is what flows out in the part alone. Connections of the rest ask
nothing of its rivers and bring nothing to them. -/
theorem PartOf.schedule (h : n₁.PartOf names n) :
    (n₁.schedule share).PartOf names (n.schedule share) := by
  -- To send water changes only what waits in a connection, so it stays on its side.
  have hidle : ∀ c, (n.carry share c).idle = c.idle := idle_carry share n
  have hsources : ∀ c, (n.carry share c).sources = c.sources :=
    fun c => (congrArg Connection.sources (hidle c) :)
  have hdestinations : ∀ c, (n.carry share c).destinations = c.destinations :=
    fun c => (congrArg Connection.destinations (hidle c) :)
  refine ⟨?_, h.dams, ?_, h.outflowDays, fun c hc => ?_⟩
  · dsimp only [Network.schedule]
    rw [Table.restrict_mapWithKey, h.rivers]
    refine Table.mapWithKey_congr fun name r hr => ?_
    have hname : name ∈ names := h.mem_names ((Table.mem_keys _ _).mpr ⟨r, hr⟩)
    rw [Volumes.left_congr (h.asked_draws hname r.volume)]
  · refine flowsFrom_map h (fun c _ => hsources c) fun c hc => ?_
    show n.carry share c = n₁.carry share c
    rw [carry, h.sent?_eq hc, carry]
  · obtain ⟨c', hc', rfl⟩ := List.mem_map.mp hc
    show (n.carry share c').Inside names ∨ (n.carry share c').Outside names
    rcases h.apart c' hc' with hin | hout
    · refine Or.inl ⟨hsources c' ▸ hin.sources, hdestinations c' ▸ hin.destinations,
        fun name hw => ?_⟩
      exact (mem_keys_waiting_carry hw).elim (hin.waiting name) (hin.destinations name)
    · refine Or.inr ⟨hsources c' ▸ hout.sources_ne, hsources c' ▸ hout.sources,
        hdestinations c' ▸ hout.destinations, fun name hw => ?_⟩
      exact (mem_keys_waiting_carry hw).elim (hout.waiting name) (hout.destinations name)

/-! ### Levels -/

/-- The rivers of a part fall to the levels of their dams as in the part alone. -/
theorem PartOf.level (h : n₁.PartOf names n) : n₁.level.PartOf names n.level := by
  refine ⟨?_, ?_, h.flows, h.outflowDays, h.apart⟩
  · rw [rivers_level, rivers_level, Table.restrict_mapWithKey, h.rivers]
    refine Table.mapWithKey_congr fun name r hr => ?_
    have hname : name ∈ names := h.mem_names ((Table.mem_keys _ _).mpr ⟨r, hr⟩)
    rw [volumeAt, volumeAt, h.get?_dams hname]
  · dsimp only [Network.level]
    rw [Table.restrict_mapWithKey, h.dams]
    refine Table.mapWithKey_congr fun name d hd => ?_
    have hname : name ∈ names :=
      Table.mem_names_of_mem_keys_restrict (h.dams ▸ (Table.mem_keys _ _).mpr ⟨d, hd⟩)
    rw [h.get?_rivers hname]

/-- The dams of a part spill what they spill in the part alone. -/
theorem PartOf.spilled (h : n₁.PartOf names n) (hreleased : released.restrict names = released₁) :
    (n.spilled released).restrict names = n₁.spilled released₁ := by
  rw [Network.spilled, Table.restrict_mapWithKey, hreleased, Network.spilled]
  refine Table.mapWithKey_congr fun name x hx => ?_
  have hname : name ∈ names :=
    Table.mem_names_of_mem_keys_restrict (hreleased ▸ (Table.mem_keys _ _).mpr ⟨x, hx⟩)
  rw [h.get?_rivers hname, h.get?_dams hname]

/-! ### A whole day -/

/-- Before anything is let go, the record of a part is that of the part alone. -/
theorem PartOf.nothingReleased (h : n₁.PartOf names n) :
    n.nothingReleased.restrict names = n₁.nothingReleased := by
  rw [Network.nothingReleased, Table.restrict_map, h.dams, Network.nothingReleased]

/-- A day of a network does in a part what it does in that part alone, and its dams let go as
much. -/
theorem PartOf.partOf_day (h : n₁.PartOf names n) :
    (n₁.day rule share day).network.PartOf names (n.day rule share day).network ∧
      (n.day rule share day).released.restrict names = (n₁.day rule share day).released := by
  have hrained : (n₁.takeRain day).PartOf names (n.takeRain day) := h.takeRain day
  have harrived : (n₁.atOutflow rule day).PartOf names (n.atOutflow rule day) ∧
      (n.releasedOn rule day).restrict names = n₁.releasedOn rule day := by
    unfold atOutflow releasedOn arrivalsOn
    split
    · exact hrained.settle hrained.nothingReleased
    · exact ⟨hrained, hrained.nothingReleased⟩
  have hevening : (n₁.atEvening rule share day).PartOf names (n.atEvening rule share day) := by
    unfold atEvening outflowOn
    rw [harrived.1.outflowDays]
    split
    · exact harrived.1.schedule
    · exact harrived.1
  exact ⟨hevening.level, hevening.spilled harrived.2⟩

end Network

end Catchment
