import Mathlib.Algebra.Order.Group.MinMax
import Mathlib.Tactic.FieldSimp
import Catchment.Proofs.Day.Reordered

/-!
# `Catchment.Proofs.Day.Yield`: the outflow of a day, in closed form

The outflow is worked out by snapshots, shares and fractions, and comes to something simple. A
river is asked once for every time it is a source of a connection that leads somewhere. Each time
it gives the daily share of what it holds, or, if it is asked too often for that, an equal part of
all it holds. A connection gets what its sources give, and nothing happens to one whose sources
are dry.

* `Network.timesAsked`, `Network.yield`: how often a river is asked, and what it gives each time.
* `Network.asked_draws`: all that is asked of a river.
* `Volumes.share_mul_granted`, `Volumes.left_eq_mul_max`: what a river gives, and what it keeps.
* `Network.sent?_eq`: what a connection gets.
* `Network.outflow_in_closed_form`: the network after the outflow, in whatever order its
  connections are.
-/

set_option autoImplicit false

namespace Catchment

namespace Volumes

variable {K : Type} [Field K] [LinearOrder K] [Amount.Exact K] {share : K} {volumes : Volumes K}
  {c : Connection K} {d : Draw K} {draws : List (Draw K)} {name : String} {volume : K}

/-- A connection that leads nowhere asks for nothing. -/
theorem draw?_eq_none_of_destinations (h : c.destinations = []) :
    volumes.draw? share c = none := by
  unfold draw?
  exact if_pos (Or.inr h)

/-- A connection that asks for anything asks each of its sources for the share of what it
holds. -/
theorem asks_eq_mul_share (h : volumes.draw? share c = some d) (name : String) (volume : K) :
    d.asks name volume = c.sources.count name * (volume * share) := by
  obtain ⟨⟨hpos, -⟩, hsources, -, hwanted⟩ := draw?_eq_some_iff.mp h
  have hheld : d.held ≠ 0 := by
    intro hzero
    rw [hwanted, hzero, zero_mul] at hpos
    exact lt_irrefl _ hpos
  rw [asks_eq, hsources, hwanted]
  field_simp

variable [IsStrictOrderedRing K]

/-- The sources of a connection that leads somewhere and asks for nothing are dry. -/
theorem eq_zero_of_draw?_eq_none
    (hv : ∀ {name volume}, volumes.get? name = some volume → 0 ≤ volume)
    (hshare : 0 < share) (h : volumes.draw? share c = none) (hne : c.destinations ≠ [])
    (hname : name ∈ c.sources) (hget : volumes.get? name = some volume) : volume = 0 := by
  have hnonneg : ∀ x ∈ c.sources.filterMap volumes.get?, 0 ≤ x := by
    intro x hx
    obtain ⟨k, -, hk⟩ := List.mem_filterMap.mp hx
    exact hv hk
  have hle : volume ≤ (c.sources.filterMap volumes.get?).sum :=
    List.single_le_sum hnonneg volume (List.mem_filterMap.mpr ⟨name, hname, hget⟩)
  by_contra hvolume
  have hpos : 0 < volume := lt_of_le_of_ne (hv hget) (Ne.symm hvolume)
  have hdraw : volumes.draw? share c = some ⟨c.sources, (c.sources.filterMap volumes.get?).sum,
      (c.sources.filterMap volumes.get?).sum * share⟩ :=
    draw?_eq_some_iff.mpr ⟨⟨mul_pos (hpos.trans_le hle) hshare, hne⟩, rfl, rfl, rfl⟩
  rw [h] at hdraw
  cases hdraw

/-- What a connection asks of a river: nothing if it leads nowhere. -/
theorem getD_asks_draw? (hv : ∀ {name volume}, volumes.get? name = some volume → 0 ≤ volume)
    (hshare : 0 < share) (hget : volumes.get? name = some volume) (c : Connection K) :
    ((volumes.draw? share c).map (·.asks name volume)).getD 0
      = if c.destinations ≠ [] then c.sources.count name * (volume * share) else 0 := by
  by_cases hne : c.destinations = []
  · rw [draw?_eq_none_of_destinations hne, if_neg (not_not_intro hne)]
    rfl
  · rw [if_pos hne]
    cases h : volumes.draw? share c with
    | some d => exact asks_eq_mul_share h name volume
    | none =>
      -- The river is no source of the connection, or it is dry.
      by_cases hname : name ∈ c.sources
      · rw [eq_zero_of_draw?_eq_none hv hshare h hne hname hget]
        simp
      · rw [List.count_eq_zero_of_not_mem hname]
        simp

/-! ### What a river gives -/

/-- What a river gives each time it is asked: the share of what it holds, or an equal part of
all. -/
theorem share_mul_granted (hshare : 0 < share) (hvolume : 0 ≤ volume) {times : Nat}
    (htimes : 0 < times) (hasked : asked draws name volume = times * (volume * share)) :
    volume * share * granted draws name volume = volume * min share (1 / times) := by
  have htimes' : (0 : K) < times := Nat.cast_pos.mpr htimes
  rcases hvolume.eq_or_lt with rfl | hpos
  · simp
  · rw [granted_eq, hasked]
    split
    · rename_i hover
      -- The river is asked too often.
      have hpart : (1 : K) / times < share := by
        rw [div_lt_iff₀ htimes']
        have hmul : volume * 1 < volume * (share * times) := by linarith
        exact lt_of_mul_lt_mul_left hmul hpos.le
      rw [min_eq_right hpart.le]
      field_simp
    · rename_i hfits
      have hpart : share ≤ 1 / times := by
        rw [le_div_iff₀ htimes']
        have hmul : volume * (share * times) ≤ volume * 1 := by linarith
        exact le_of_mul_le_mul_left hmul hpos
      rw [min_eq_left hpart, mul_one]

/-- What a river keeps: what it holds, less the share for every time it is asked, or nothing. -/
theorem left_eq_mul_max (hshare : 0 < share) (hvolume : 0 ≤ volume) {times : Nat}
    (hasked : asked draws name volume = times * (volume * share)) :
    left draws name volume = volume * max (1 - times * share) 0 := by
  rw [left_eq hvolume]
  rcases Nat.eq_zero_or_pos times with rfl | htimes
  · rw [hasked]
    simp
  · have htimes' : (0 : K) < times := Nat.cast_pos.mpr htimes
    have hgiven : asked draws name volume * granted draws name volume
        = times * (volume * min share (1 / times)) := by
      rw [← share_mul_granted hshare hvolume htimes hasked, hasked]
      ring
    have hparts : (times : K) * min share (1 / times) = min (times * share) 1 := by
      rw [mul_min_of_nonneg _ _ htimes'.le, mul_one_div_cancel htimes'.ne']
    have hrest : 1 - min (times * share) 1 = max (1 - times * share) 0 := by
      rw [← max_sub_sub_left, sub_self]
    rw [hgiven, ← hrest, ← hparts]
    ring

/-- All that connections ask of a river is the share of what it holds, for every time it is a
source of one that leads somewhere. -/
theorem asked_filterMap_draw? (hv : ∀ {name volume}, volumes.get? name = some volume → 0 ≤ volume)
    (hshare : 0 < share) (hget : volumes.get? name = some volume) (flows : List (Connection K)) :
    asked (flows.filterMap (volumes.draw? share)) name volume
      = (((flows.filter (·.destinations ≠ [])).map (·.sources.count name)).sum : Nat)
        * (volume * share) := by
  rw [asked_eq_sum, sum_map_filterMap]
  simp only [getD_asks_draw? hv hshare hget]
  -- The induction is on the connections.
  induction flows with
  | nil => simp
  | cons c flows ih =>
    rw [List.map_cons, List.sum_cons, ih]
    by_cases hne : c.destinations = []
    · simp [hne]
    · simp [hne]
      ring

end Volumes

namespace Network

variable {share : Rat} {n : Network Rat} {c : Connection Rat} {name : String} {volume : Rat}

/-- How often a river is asked: once for every time it is a source of a connection that leads
somewhere. -/
def timesAsked (n : Network Rat) (name : String) : Nat :=
  ((n.flows.filter (·.destinations ≠ [])).map (·.sources.count name)).sum

/-- The part of its water that a river gives each time it is asked. -/
def yield (share : Rat) (n : Network Rat) (name : String) : Rat :=
  min share (1 / n.timesAsked name)

/-- What a connection gets from all rivers together. -/
def gets (share : Rat) (n : Network Rat) (c : Connection Rat) : Rat :=
  n.volumes.weigh fun name volume => c.sources.count name * (volume * n.yield share name)

/-- A connection that leads somewhere does not ask a river more often than all connections do. -/
theorem count_le_timesAsked (hc : c ∈ n.flows) (hne : c.destinations ≠ []) (name : String) :
    c.sources.count name ≤ n.timesAsked name := by
  refine List.single_le_sum (fun _ _ => Nat.zero_le _) _ (List.mem_map.mpr ⟨c, ?_, rfl⟩)
  exact List.mem_filter.mpr ⟨hc, decide_eq_true hne⟩

/-- All that is asked of a river is the share of what it holds, for every time it is asked. -/
theorem asked_draws (hv : n.volumes.Nonneg) (hshare : 0 < share)
    (hget : n.volumes.get? name = some volume) :
    Volumes.asked (n.draws share) name volume = n.timesAsked name * (volume * share) :=
  Volumes.asked_filterMap_draw? hv hshare hget n.flows

/-- A river is left with what it holds less the share for every time it is asked, or with
nothing. -/
theorem left_draws (hv : n.volumes.Nonneg) (hshare : 0 < share)
    (hget : n.volumes.get? name = some volume) :
    Volumes.left (n.draws share) name volume = volume * max (1 - n.timesAsked name * share) 0 :=
  Volumes.left_eq_mul_max hshare (hv hget) (asked_draws hv hshare hget)

/-! ### What a connection gets -/

/-- A connection that asks gets what its sources give. In the sum over what is granted, each river
counts once for every time it is a source. -/
theorem given_draws (hv : n.volumes.Nonneg) (hshare : 0 < share) (hc : c ∈ n.flows) {d : Draw Rat}
    (h : n.volumes.draw? share c = some d) :
    Volumes.given (n.grants share) d = n.gets share c := by
  have hne : c.destinations ≠ [] := (Volumes.draw?_eq_some_iff.mp h).1.2
  rw [grants, Volumes.given_eq_weigh]
  refine Table.weigh_congr fun name volume hget => ?_
  rw [Volumes.asks_eq_mul_share h]
  rcases Nat.eq_zero_or_pos (c.sources.count name) with hcount | hcount
  · simp [hcount]
  · have htimes : 0 < n.timesAsked name := hcount.trans_le (count_le_timesAsked hc hne name)
    rw [yield, ← Volumes.share_mul_granted hshare (hv hget) htimes (asked_draws hv hshare hget)]
    ring

/-- A connection that leads somewhere and asks for nothing gets nothing. -/
theorem gets_eq_zero (hv : n.volumes.Nonneg) (hshare : 0 < share)
    (h : n.volumes.draw? share c = none) (hne : c.destinations ≠ []) : n.gets share c = 0 := by
  refine List.sum_eq_zero fun x hx => ?_
  obtain ⟨⟨name, volume⟩, he, rfl⟩ := List.mem_map.mp hx
  by_cases hname : name ∈ c.sources
  · have hget : n.volumes.get? name = some volume := (n.volumes.mem_entries name volume).mp he
    simp [Volumes.eq_zero_of_draw?_eq_none hv hshare h hne hname hget]
  · simp [List.count_eq_zero_of_not_mem hname]

/-- What leaves by a connection: what it gets, if it gets anything and leads somewhere. -/
theorem sent?_eq (hv : n.volumes.Nonneg) (hshare : 0 < share) (hc : c ∈ n.flows) :
    n.sent? share c
      = if n.gets share c = 0 ∨ c.destinations = [] then none else some (n.gets share c) := by
  rw [sent?, given?]
  cases h : n.volumes.draw? share c with
  | none =>
    have hnothing : n.gets share c = 0 ∨ c.destinations = [] := by
      by_cases hne : c.destinations = []
      · exact Or.inr hne
      · exact Or.inl (gets_eq_zero hv hshare h hne)
    rw [if_pos hnothing]
    rfl
  | some d =>
    have hpos : 0 < n.gets share c := by
      rw [← given_draws hv hshare hc h]
      exact Volumes.given_pos hv (fair_draws hv) (Volumes.fair_of_draw? hv h)
    rw [if_neg (not_or.mpr ⟨hpos.ne', (Volumes.draw?_eq_some_iff.mp h).1.2⟩),
      ← given_draws hv hshare hc h]
    rfl

/-- The outflow of a day in closed form, where no river holds less than nothing. A river is asked
once for every time it is a source of a connection that leads somewhere, and keeps what it holds
less the share for each time, or nothing. Each time it gives the share of what it holds, or an
equal part of all it holds. A connection whose sources are dry, or that leads nowhere, stays as it
is, and nothing is told of it. Any other gets what its sources give: for every time a destination
is named, one of equal portions of that is added to what waits for it, and told. None of this
depends on the order of the connections. -/
theorem outflow_in_closed_form (hvolumes : n.volumes.Nonneg) (hshare : 0 < share) (day : Int) :
    let times (name : String) : Nat :=
      ((n.flows.filter (·.destinations ≠ [])).map (·.sources.count name)).sum
    let amount (c : Connection Rat) : Rat :=
      n.volumes.weigh fun name volume =>
        c.sources.count name * (volume * min share (1 / times name))
    let after (c : Connection Rat) : Connection Rat :=
      if amount c = 0 ∨ c.destinations = [] then c else c.send (amount c)
    n.schedule share = { n with
        rivers := n.rivers.mapWithKey fun name r =>
          { r with volume := r.volume * max (1 - times name * share) 0 }
        flows := n.flows.map after } ∧
      (∀ c ∈ n.flows, amount c ≠ 0 → c.destinations ≠ [] →
        (after c).waiting.weigh (fun _ x => x) = c.waiting.weigh (fun _ x => x) + amount c ∧
        ∀ name, (after c).waiting.get? name =
          if name ∈ c.destinations then some ((c.waiting.get? name).getD 0
            + c.destinations.count name * (amount c / c.destinations.length))
          else c.waiting.get? name) ∧
      n.scheduleEvents share day = n.flows.flatMap (fun c =>
        if amount c = 0 then [] else c.destinations.map fun name =>
          .scheduled day c.name name (amount c / c.destinations.length)) ∧
      ∀ flows, flows.Perm n.flows →
        (n.withFlows flows).schedule share = (n.schedule share).withFlows (flows.map after) := by
  intro times amount after
  -- Everything is read off what a connection is given, which is settled before any is looked at.
  have hsent : ∀ c ∈ n.flows, n.sent? share c
      = if amount c = 0 ∨ c.destinations = [] then none else some (amount c) :=
    fun c hc => sent?_eq hvolumes hshare hc
  have hcarry : ∀ c ∈ n.flows, n.carry share c = after c := by
    intro c hc
    rw [carry, hsent c hc]
    by_cases hnothing : amount c = 0 ∨ c.destinations = []
    · simp only [after, if_pos hnothing]
    · simp only [after, if_neg hnothing]
  refine ⟨?_, fun c _ hamount hne => ?_, ?_, fun flows hperm => ?_⟩
  · have hrivers : (n.schedule share).rivers = n.rivers.mapWithKey fun name r =>
        { r with volume := r.volume * max (1 - times name * share) 0 } := by
      show (n.rivers.mapWithKey fun name r =>
        { r with volume := Volumes.left (n.draws share) name r.volume }) = _
      refine Table.mapWithKey_congr fun name r hr => ?_
      have hget : n.volumes.get? name = some r.volume := by
        rw [get?_volumes, hr]
        rfl
      rw [left_draws hvolumes hshare hget]
      rfl
    have hflows : (n.schedule share).flows = n.flows.map after := by
      rw [flows_schedule]
      exact List.map_congr_left hcarry
    rw [← hrivers, ← hflows]
    rfl
  · have hafter : after c = c.send (amount c) := if_neg (not_or.mpr ⟨hamount, hne⟩)
    rw [hafter]
    exact ⟨Connection.weigh_waiting_send hne, Connection.get?_waiting_send c (amount c)⟩
  · refine List.flatMap_congr fun c hc => ?_
    have hgiven : n.given? share (n.grants share) c = _ := hsent c hc
    simp only [hgiven]
    by_cases hamount : amount c = 0
    · simp [hamount]
    · by_cases hne : c.destinations = []
      · simp [hne]
      · simp only [hamount, hne, or_self, if_false]
        rfl
  · rw [schedule_withFlows hperm]
    congr 1
    exact List.map_congr_left fun c hc => hcarry c (hperm.mem_iff.mp hc)

/-- A river of 10 that is asked three times for half of what it holds gives a third each time, and
runs dry. Whichever connection comes first, one gets a third and the other two. -/
theorem outflow_in_closed_form_shared :
    let n : Network Rat :=
      { empty with
        rivers := .ofList [("a", ⟨"a", [], 10⟩), ("b", ⟨"b", [], 0⟩)]
        flows := [⟨some "f", ["a"], ["b"], ∅⟩, .leg ["a", "b", "a"] ["b", "b"], .leg ["a"] []] }
    n.volumes.Nonneg ∧ (0 : Rat) < 1 / 2 ∧
      (n.schedule (1 / 2)).volumes.entries = [("a", 0), ("b", 0)] ∧
      (n.schedule (1 / 2)).arrivals = [("b", 10 / 3), ("b", 20 / 3)] ∧
      ((n.withFlows n.flows.reverse).schedule (1 / 2)).arrivals
        = [("b", 20 / 3), ("b", 10 / 3)] := by
  intro n
  have hvolumes : n.volumes.Nonneg := by
    have hentries : ∀ e ∈ n.volumes.entries, 0 ≤ e.2 := by decide +kernel
    intro name volume hget
    exact hentries _ ((n.volumes.mem_entries name volume).mpr hget)
  have hshare : (0 : Rat) < 1 / 2 := by decide +kernel
  obtain ⟨hschedule, -, -, horder⟩ := outflow_in_closed_form hvolumes hshare 1
  refine ⟨hvolumes, hshare, ?_, ?_, ?_⟩
  · rw [hschedule]
    decide +kernel
  · rw [hschedule]
    decide +kernel
  · rw [horder _ (List.reverse_perm _)]
    decide +kernel

end Network

end Catchment
