import Catchment.Proofs.Day
import Catchment.Proofs.Network.Declared

/-!
# `Catchment.Proofs.Simulation`: day after day, with a record

A simulation may be taken through any days, in any order; a run takes it through
the days from the first to the last. Both keep `Underway`: the network is at rest,
and every dam has a record. So no day fails, and the record grows by what the day
brings.

* `Simulation.steps`: one day after the other, as given.
* `Underway.step_eq`: what one day does.
* `Underway.steps`: what any days keep.
* `Network.afterDays`: a network after the first days of a run.
* `days_eq`, `run_eq`: the days of a run, all at once, and a whole run.
-/

set_option autoImplicit false

namespace Catchment

namespace Simulation

variable {α : Type} [Amount α]

/-- One day after the other, in the order that is given. -/
def steps (s : Simulation α) (n : Network α) : List Int → Progress α
  | [] => ⟨n, s, [], [], none⟩
  | day :: rest =>
    let today := s.step n day
    match today.error with
    | some _ => today
    | none =>
      let later := steps today.simulation today.network rest
      { later with
        events := today.events ++ later.events
        notices := today.notices ++ later.notices }

/-- All that dams have let go, according to the record. -/
def released (s : Simulation α) : α := Amount.total (s.releases.values.map Amount.total)

/-- The record with one more day. -/
def record (s : Simulation α) (outcome : DayOutcome α) : Simulation α :=
  { s with
    history := s.history ++ [outcome.network.volumes]
    releases := s.releases.mapWithKey fun name amounts =>
      amounts ++ (outcome.released.get? name).toList }

/-! ### The record of a day -/

omit [Amount α] in
/-- Where every name has a record, each gets what belongs to it. -/
private theorem recordReleases_entries (releases : Table (List α)) {es : List (String × α)}
    (hnodup : (Entries.keys es).Nodup) (h : ∀ k ∈ Entries.keys es, k ∈ releases.keys) :
    recordReleases releases es
      = (releases.mapWithKey fun k xs => xs ++ (Entries.find k es).toList, none) := by
  -- The induction is on the entries.
  induction es generalizing releases with
  | nil =>
    refine Prod.ext (Table.ext_get? (Table.keys_mapWithKey _ _).symm fun k => ?_) rfl
    rw [Table.get?_mapWithKey]
    simp [recordReleases, Entries.find]
  | cons e rest ih =>
    obtain ⟨name, x⟩ := e
    obtain ⟨hname, hrest⟩ := List.nodup_cons.mp hnodup
    obtain ⟨xs, hxs⟩ := (releases.mem_keys name).mp (h name List.mem_cons_self)
    have hkeys : (releases.insert name (xs ++ [x])).keys = releases.keys := by
      rw [Table.keys_insert, if_pos (h name List.mem_cons_self)]
    -- The name does not come up again, so its record grows once.
    have hnone : Entries.find name rest = none := by
      rw [← Option.not_isSome_iff_eq_none, Entries.find_isSome_iff]
      exact hname
    simp only [recordReleases, hxs]
    rw [ih _ hrest fun k hk => hkeys ▸ h k (List.mem_cons_of_mem _ hk)]
    refine Prod.ext (Table.ext_get? ?_ fun k => ?_) rfl
    · simp only [Table.keys_mapWithKey, hkeys]
    · simp only [Table.get?_mapWithKey, Table.get?_insert]
      by_cases hk : k = name
      · subst hk
        simp [Entries.find, hxs, hnone]
      · simp [Entries.find, hk, Ne.symm hk]

omit [Amount α] in
/-- Where each dam has a record, a day adds to every record what the dam has let go, and nothing
goes wrong. -/
theorem recordReleases_eq (releases : Table (List α)) (released : Table α)
    (h : ∀ k ∈ released.keys, k ∈ releases.keys) :
    recordReleases releases released.entries
      = (releases.mapWithKey fun k xs => xs ++ (released.get? k).toList, none) :=
  recordReleases_entries releases released.nodup h

/-- What one day does, where every dam that lets go has a record. -/
theorem step_eq_record {s : Simulation α} {n : Network α} {day : Int}
    (h : ∀ k ∈ (n.day s.storm s.share day).released.keys, k ∈ s.releases.keys) :
    s.step n day =
      ⟨(n.day s.storm s.share day).network, s.record (n.day s.storm s.share day),
        (n.day s.storm s.share day).events, (n.day s.storm s.share day).notices, none⟩ := by
  simp only [step, recordReleases_eq _ _ h]
  rfl

/-- What one day does, where every dam has a record. -/
theorem step_eq {s : Simulation α} {n : Network α} (h : s.releases.keys = n.dams.keys)
    (day : Int) :
    s.step n day =
      ⟨(n.day s.storm s.share day).network, s.record (n.day s.storm s.share day),
        (n.day s.storm s.share day).events, (n.day s.storm s.share day).notices, none⟩ := by
  refine step_eq_record fun k hk => ?_
  rwa [h, ← Network.keys_released_day]

/-- Every dam has a record after a day, if every dam has one before it. -/
theorem keys_releases_record {s : Simulation α} {n : Network α}
    (h : s.releases.keys = n.dams.keys) (day : Int) :
    (s.record (n.day s.storm s.share day)).releases.keys
      = (n.day s.storm s.share day).network.dams.keys := by
  rw [record, Table.keys_mapWithKey, h, Network.keys_dams_of_plan_eq Network.plan_day]

end Simulation

/-! ### What every day keeps -/

/-- A network between two days, with a record for each of its dams. -/
structure Simulation.Underway (s : Simulation Rat) (n : Network Rat) : Prop where
  wellFormed : n.WellFormed
  all : n.All (0 ≤ ·)
  atRest : n.AtRest
  keys : s.releases.keys = n.dams.keys

namespace Simulation

variable {s : Simulation Rat} {n : Network Rat}

/-- A simulation of a network as statements build it is under way from the start. -/
theorem underway_start (settings : Settings Rat) (share : Rat) (hn : n.Fresh (0 ≤ ·)) :
    (start settings share n).Underway n :=
  ⟨hn.wellFormed, hn.all, .of_fresh hn.wellFormed hn.all hn.plan_eq, Table.keys_map _ _⟩

/-- A day of a simulation under way does not go wrong: it is the day of the network, with its
record. -/
theorem Underway.step_eq (h : s.Underway n) (day : Int) :
    s.step n day =
      ⟨(n.day s.storm s.share day).network, s.record (n.day s.storm s.share day),
        (n.day s.storm s.share day).events, (n.day s.storm s.share day).notices, none⟩ :=
  Simulation.step_eq h.keys day

/-- A simulation under way is under way after a day. -/
theorem Underway.record (h : s.Underway n) (day : Int) :
    (s.record (n.day s.storm s.share day)).Underway (n.day s.storm s.share day).network := by
  have hplan : (n.day s.storm s.share day).network.plan = n.plan := Network.plan_day
  exact ⟨h.wellFormed.of_plan_eq hplan, h.all.of_plan_eq hplan,
    h.atRest.atRest_day h.wellFormed h.all, keys_releases_record h.keys day⟩

/-- Any days, in any order, keep what a day keeps, and none of them fails. -/
theorem Underway.steps (h : s.Underway n) (days : List Int) :
    (s.steps n days).error = none ∧
      (s.steps n days).simulation.Underway (s.steps n days).network ∧
      (s.steps n days).network.plan = n.plan := by
  -- The induction is on the days, for any record and any network between two days.
  induction days generalizing s n with
  | nil => exact ⟨rfl, h, rfl⟩
  | cons day rest ih =>
    have hplan : (n.day s.storm s.share day).network.plan = n.plan := Network.plan_day
    obtain ⟨herror, hunderway, hrest⟩ := ih (h.record day)
    simp only [Simulation.steps, h.step_eq]
    exact ⟨herror, hunderway, hrest.trans hplan⟩

/-- All that is recorded after a day is what was recorded before it, and what is let go on it. -/
theorem Underway.released_record (h : s.Underway n) (day : Int) :
    (s.record (n.day s.storm s.share day)).released
      = s.released + (n.day s.storm s.share day).released.weigh fun _ x => x := by
  let today := (n.day s.storm s.share day).released
  have hkeys : today.keys = s.releases.keys := Network.keys_released_day.trans h.keys.symm
  have hsum : ∀ s' : Simulation Rat, s'.released = s'.releases.weigh fun _ xs => xs.sum := by
    intro s'
    rw [released, Amount.total_eq_sum, Table.sum_values_map]
    exact Table.weigh_congr fun _ xs _ => Amount.total_eq_sum xs
  -- The record has the names of the dams, so a sum over one is a sum over the other.
  have htoday : (today.weigh fun _ x => x)
      = s.releases.weigh fun k _ => ((today.get? k).toList).sum := by
    rw [← Table.weigh_eq_of_subset (fun k => ((today.get? k).toList).sum)
      (fun k hk => hkeys ▸ hk) fun k hk => ?_]
    · exact Table.weigh_congr fun k x hk => by simp [hk]
    · rw [(Table.get?_eq_none_iff _ _).mpr hk]
      rfl
  rw [hsum, hsum, Simulation.record, Table.weigh_mapWithKey, htoday, ← Table.weigh_add]
  exact Table.weigh_congr fun k xs _ => List.sum_append

end Simulation

/-! ### The days of a run -/

namespace Network

variable {α : Type} [Amount α]

/-- A network after the first days of a run, as many as are given. -/
def afterDays (rule : StormRule α) (share : α) (n : Network α) : Nat → Network α
  | 0 => n
  | k + 1 => ((afterDays rule share n k).day rule share (k + 1 : Nat)).network

/-- What a day of a run leaves behind. Days are counted from one. -/
def dayOf (rule : StormRule α) (share : α) (n : Network α) (d : Nat) : DayOutcome α :=
  (n.afterDays rule share (d - 1)).day rule share d

/-- What a day keeps is kept by the days of a run. -/
theorem afterDays_induction {rule : StormRule α} {share : α} {motive : Network α → Prop}
    {n : Network α} (start : motive n)
    (day : ∀ (m : Network α) (d : Int), motive m → motive (m.day rule share d).network)
    (k : Nat) :
    motive (n.afterDays rule share k) := by
  induction k with
  | zero => exact start
  | succ k ih => exact day _ _ ih

/-- The days of a run leave the plan alone. -/
theorem plan_afterDays (rule : StormRule α) (share : α) (n : Network α) (k : Nat) :
    (n.afterDays rule share k).plan = n.plan :=
  afterDays_induction (motive := fun m => m.plan = n.plan) rfl (fun _ _ hm => plan_day.trans hm) k

/-- No day of a run leaves a river with less than nothing. -/
theorem Nonneg.afterDays {K : Type} [Field K] [LinearOrder K] [IsStrictOrderedRing K]
    [Amount.Exact K] {n : Network K} {rule : StormRule K} {share : K} (hv : n.Nonneg) (k : Nat) :
    (n.afterDays rule share k).Nonneg :=
  afterDays_induction hv (fun _ _ hm => hm.network_day rule share) k

end Network

namespace Simulation

/-- A simulation after some days of a run, given the network at its start. -/
def afterDays {α : Type} [Amount α] (s : Simulation α) (n : Network α) (days : List Nat) :
    Simulation α :=
  { s with
    history := s.history ++ days.map fun d => (n.afterDays s.storm s.share d).volumes
    releases := s.releases.mapWithKey fun name amounts =>
      amounts ++ days.flatMap fun d => ((n.dayOf s.storm s.share d).released.get? name).toList }

section

variable {α : Type} [Amount α] {s : Simulation α} {n : Network α}

/-- After no days, a simulation is as it was. -/
theorem afterDays_nil (s : Simulation α) (n : Network α) : s.afterDays n [] = s := by
  have hreleases : (s.releases.mapWithKey fun _ amounts => amounts) = s.releases := by
    refine Table.ext_get? (Table.keys_mapWithKey _ _) fun k => ?_
    rw [Table.get?_mapWithKey, Option.map_id']
  simp only [afterDays, List.map_nil, List.flatMap_nil, List.append_nil, hreleases]

/-- After some days, a simulation is as it is once the first of them is recorded, and then the
others. -/
theorem afterDays_cons (s : Simulation α) (n : Network α) (d : Nat)
    (rest : List Nat) (hd : n.afterDays s.storm s.share d = (n.dayOf s.storm s.share d).network) :
    s.afterDays n (d :: rest) = (s.record (n.dayOf s.storm s.share d)).afterDays n rest := by
  simp only [afterDays, record, Table.mapWithKey_mapWithKey, List.map_cons, List.flatMap_cons,
    List.append_assoc, List.cons_append, List.nil_append, hd]

/-- The days of a run, all at once. -/
theorem days_eq {last k left : Nat}
    (h : s.releases.keys = (n.afterDays s.storm s.share k).dams.keys) :
    s.days last (n.afterDays s.storm s.share k) (k + 1) left =
      { network := n.afterDays s.storm s.share (k + left)
        simulation := s.afterDays n (List.range' (k + 1) left)
        events := (List.range' (k + 1) left).flatMap fun (d : Nat) =>
          .dayBegun d :: (n.dayOf s.storm s.share d).events
        notices := (List.range' (k + 1) left).flatMap fun (d : Nat) =>
          .dayBegun d last :: (n.dayOf s.storm s.share d).notices
        error := none } := by
  -- The induction is on the days that are left, for any record, because every day adds to it.
  induction left generalizing s k with
  | zero => simp only [days, List.range'_zero, afterDays_nil, List.flatMap_nil, Nat.add_zero]
  | succ left ih =>
    have hnext : (s.record (n.dayOf s.storm s.share (k + 1))).releases.keys
        = (n.afterDays s.storm s.share (k + 1)).dams.keys := keys_releases_record h (k + 1 : Nat)
    have hstep : s.step (n.afterDays s.storm s.share k) (k + 1 : Nat) =
        ⟨n.afterDays s.storm s.share (k + 1), s.record (n.dayOf s.storm s.share (k + 1)),
          (n.dayOf s.storm s.share (k + 1)).events, (n.dayOf s.storm s.share (k + 1)).notices,
          none⟩ := step_eq h _
    have hrest := ih hnext
    change days last _ (n.afterDays s.storm s.share (k + 1)) _ left = _ at hrest
    have hk : k + (left + 1) = k + 1 + left := by omega
    simp only [days, hstep, hrest, List.range'_succ, List.flatMap_cons, hk,
      afterDays_cons s n (k + 1) _ rfl]
    rfl

/-- A run that comes to its end has a capacity for every river. -/
theorem withoutCapacity_of_report {report : RunReport α} (h : (s.run n).2 = some report) :
    n.withoutCapacity = [] := by
  cases hnames : n.withoutCapacity with
  | nil => rfl
  | cons name names =>
    simp only [run, Network.obstacle?, hnames] at h
    cases h

/-- The days of a run are the days from the first on, one after the other. -/
private theorem days_eq_steps (last : Nat) (s : Simulation α) (n : Network α) (day left : Nat) :
    (s.days last n day left).network
        = (s.steps n ((List.range' day left).map fun (d : Nat) => (d : Int))).network ∧
      (s.days last n day left).simulation
        = (s.steps n ((List.range' day left).map fun (d : Nat) => (d : Int))).simulation ∧
      (s.days last n day left).error
        = (s.steps n ((List.range' day left).map fun (d : Nat) => (d : Int))).error := by
  induction left generalizing s n day with
  | zero => exact ⟨rfl, rfl, rfl⟩
  | succ left ih =>
    simp only [days, steps, List.range'_succ, List.map_cons]
    cases herror : (s.step n day).error with
    | some _ => exact ⟨rfl, rfl, herror.symm⟩
    | none => exact ih _ _ _

/-- Where the days from the first on lead, where every dam has a record. None of them fails. -/
theorem steps_firstDays (h : s.releases.keys = n.dams.keys) (k : Nat) :
    (s.steps n ((List.range' 1 k).map fun (d : Nat) => (d : Int))).network
        = n.afterDays s.storm s.share k ∧
      (s.steps n ((List.range' 1 k).map fun (d : Nat) => (d : Int))).simulation
        = s.afterDays n (List.range' 1 k) ∧
      (s.steps n ((List.range' 1 k).map fun (d : Nat) => (d : Int))).error = none := by
  -- Both are known as a whole, once from the loop of a run and once from single days.
  have hdays : s.days k n 1 k = _ := days_eq (k := 0) h
  obtain ⟨hnetwork, hsimulation, herror⟩ := days_eq_steps k s n 1 k
  rw [← hnetwork, ← hsimulation, ← herror, hdays, Nat.zero_add]
  exact ⟨rfl, rfl, rfl⟩

/-- A whole run, where every river has a capacity and every dam has a record. -/
theorem run_eq (h : s.releases.keys = n.dams.keys) (hcapacity : n.withoutCapacity = []) :
    s.run n =
      ({ network := n.afterDays s.storm s.share n.lastDay
         simulation := s.afterDays n (List.range' 1 n.lastDay)
         events := n.announcement n.lastDay ::
           ((List.range' 1 n.lastDay).flatMap fun (d : Nat) =>
             .dayBegun d :: (n.dayOf s.storm s.share d).events)
           ++ s.finalEvents (n.afterDays s.storm s.share n.lastDay)
         notices := (List.range' 1 n.lastDay).flatMap fun (d : Nat) =>
           .dayBegun d n.lastDay :: (n.dayOf s.storm s.share d).notices
         error := none },
       some ((s.afterDays n (List.range' 1 n.lastDay)).finish
         (n.afterDays s.storm s.share n.lastDay) n.lastDay)) := by
  have hobstacle : n.obstacle? = none := by rw [Network.obstacle?, hcapacity]
  have hdays : s.days n.lastDay n 1 n.lastDay = _ := days_eq (k := 0) h
  simp only [run, hobstacle, hdays, Nat.zero_add]
  rfl

end

variable {s : Simulation Rat} {n : Network Rat}

/-- A simulation under way is under way after any number of days. -/
theorem Underway.afterDays (h : s.Underway n) (k : Nat) :
    (s.afterDays n (List.range' 1 k)).Underway (n.afterDays s.storm s.share k) := by
  obtain ⟨hnetwork, hsimulation, -⟩ := steps_firstDays h.keys k
  rw [← hnetwork, ← hsimulation]
  exact (h.steps _).2.1

end Simulation

end Catchment
