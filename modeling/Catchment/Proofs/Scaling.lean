import Catchment.Proofs.Day.Scaled
import Catchment.Proofs.Simulation

/-!
# `Catchment.Proofs.Scaling`: a run in other units

Since a day does the same in any unit, so does a run. The number of days does not depend
on amounts, and the record of every day is the same in other units. At the end rivers are
measured in percent of what they can hold, which no unit changes, so the same rivers are
close to their capacity, by the same percentage, and the same rivers are over it.

* `Simulation.scale`, `RunReport.scale`: simulations and reports in other units.
* `Finding.of_scale`: what is found of a river.
* `Simulation.step_scale`, `Simulation.days_scale`: one day with its record, and all days.
* `Simulation.run_scale`: a whole run.
* `Network.run_is_the_same_in_other_units`: the run of a network that a text declares.
-/

set_option autoImplicit false

namespace Catchment

/-! ### Other units -/

section

variable {α : Type} [Mul α]

/-- A finding in other units. -/
def Finding.scale (c : α) : Finding α → Finding α
  | nothing => nothing
  | near percent => near percent
  | beyond excess => beyond (c * excess)

namespace Finding

/-- What is told of a finding is told in other units. -/
theorem events_scale (c : α) (river : String) (f : Finding α) :
    (f.scale c).events river = (f.events river).map (Event.scale c) := by
  cases f <;> rfl

/-- That a river is near its capacity is reported in percent, so it is the same in any unit. -/
theorem near?_scale (c : α) (f : Finding α) : (f.scale c).near? = f.near? := by
  cases f <;> rfl

/-- How far a river is beyond its capacity is reported in other units. -/
theorem beyond?_scale (c : α) (f : Finding α) : (f.scale c).beyond? = f.beyond?.map (c * ·) := by
  cases f <;> rfl

end Finding

/-- A simulation in other units. -/
def Simulation.scale (c : α) (s : Simulation α) : Simulation α :=
  { s with
    storm := s.storm.scale c
    history := s.history.map (Table.map (c * ·))
    releases := s.releases.map (List.map (c * ·)) }

/-- The record grows by the same in any unit. -/
theorem Simulation.recordReleases_scale (c : α) (releases : Table (List α))
    (released : List (String × α)) :
    recordReleases (releases.map (List.map (c * ·))) (released.map fun e => (e.1, c * e.2))
      = ((recordReleases releases released).1.map (List.map (c * ·)),
          (recordReleases releases released).2) := by
  -- The induction is on what is let go, dam by dam, up to the first that has no record.
  induction released generalizing releases with
  | nil => rfl
  | cons e rest ih =>
    obtain ⟨name, amount⟩ := e
    simp only [List.map_cons, recordReleases, Table.get?_map]
    cases releases.get? name with
    | none => rfl
    | some amounts =>
      have hinsert :
          (releases.map (List.map (c * ·))).insert name (amounts.map (c * ·) ++ [c * amount])
          = (releases.insert name (amounts ++ [amount])).map (List.map (c * ·)) := by
        rw [Table.map_insert, List.map_append]
        rfl
      dsimp only [Option.map_some]
      rw [hinsert, ih]

/-- What a part of a simulation leaves behind, in other units. -/
def Progress.scale (c : α) (p : Progress α) : Progress α :=
  { p with
    network := p.network.scale c
    simulation := p.simulation.scale c
    events := p.events.map (Event.scale c) }

/-- What is found at the end of a run, in other units. -/
def RunReport.scale (c : α) (r : RunReport α) : RunReport α :=
  { r with
    volumes := r.volumes.map (c * ·)
    damLevels := r.damLevels.map (c * ·)
    history := r.history.map (Table.map (c * ·))
    releases := r.releases.map (List.map (c * ·))
    inTransit := c * r.inTransit
    overflows := r.overflows.map (c * ·) }

/-- Settings in other units. Of what can be adjusted, only the limit of heavy rain is an
amount. -/
def Settings.scale (c : α) (settings : Settings α) : Settings α :=
  { settings with storm := settings.storm.scale c }

end

section

variable {K : Type} [Field K] [LinearOrder K] [IsStrictOrderedRing K] [Amount.Exact K] {c : K}

/-! ### What is found at the end -/

/-- The part of a capacity that a volume is does not depend on the unit. -/
theorem Fullness.of_scale (hc : 0 < c) (volume capacity : K) :
    Fullness.of (c * volume) (c * capacity) = Fullness.of volume capacity := by
  unfold of
  rw [Amount.zero_eq]
  simp only [mul_pos_iff_of_pos_left hc, mul_div_mul_left _ _ hc.ne']

namespace Finding

/-- A river is found to be beyond its capacity, near it or neither in any unit alike. -/
theorem of_scale (hc : 0 < c) (limits : Limits K) (volume : K) (capacity : Option K) :
    of limits (c * volume) (capacity.map (c * ·)) = (of limits volume capacity).scale c := by
  cases capacity with
  | none => rfl
  | some capacity =>
    have hexcess : c * volume - c * capacity * limits.overflowPercent / 100
        = c * (volume - capacity * limits.overflowPercent / 100) := by
      ring
    -- The limits are percentages, so only the excess is multiplied.
    simp only [of, Option.map_some, Fullness.of_scale hc]
    split
    · exact congrArg beyond hexcess
    · cases Fullness.of volume capacity with
      | percent p =>
        dsimp only
        split_ifs <;> rfl
      | unbounded => rfl

end Finding

namespace Network

/-- What is found at a river of a network in other units is the finding in these units. -/
theorem finding_scale (hc : 0 < c) (limits : Limits K) (n : Network K) (r : River K) :
    (n.scale c).finding limits (r.scale c) = (n.finding limits r).scale c := by
  unfold finding
  rw [← Finding.of_scale hc, ← Table.get?_map]
  rfl

/-- What is told of a river at the end is told in other units. -/
theorem finalEvents_scale (hc : 0 < c) (limits : Limits K) (n : Network K) (r : River K) :
    (n.scale c).finalEvents limits (r.scale c)
      = (n.finalEvents limits r).map (Event.scale c) := by
  have hcapacity : (n.scale c).capacities.get? r.name = (n.capacities.get? r.name).map (c * ·) :=
    Table.get?_map _ _ _
  unfold finalEvents
  rw [finding_scale hc, Finding.events_scale]
  show Event.finalVolume r.name (c * r.volume) ((n.scale c).capacities.get? r.name) :: _ = _
  rw [hcapacity]
  rfl

/-- What is found of rivers, in other units, if that is so for each of them. -/
theorem findings_scale (hc : 0 < c) (limits : Limits K) (n : Network K)
    {what : Finding K → Option K} {f : K → K}
    (h : ∀ found, what (found.scale c) = (what found).map f) :
    (n.scale c).findings limits what = (n.findings limits what).map f := by
  unfold findings
  rw [Table.map_ofList, scale, Table.values_map, List.filterMap_map, List.map_filterMap]
  refine congrArg Table.ofList (List.filterMap_congr fun r _ => ?_)
  show (what ((n.scale c).finding limits (r.scale c))).map _
    = ((what (n.finding limits r)).map _).map _
  rw [finding_scale hc, h, Option.map_map, Option.map_map]
  rfl

/-! ### What a run begins with -/

omit [IsStrictOrderedRing K] in
/-- What is under way, in other units. -/
theorem inTransit_scale (c : K) (n : Network K) : (n.scale c).inTransit = c * n.inTransit := by
  unfold inTransit
  rw [← Amount.total_scale, scale, List.map_map, List.map_map]
  refine congrArg Amount.total (List.map_congr_left fun k _ => ?_)
  show Amount.total (k.waiting.map (c * ·)).values = c * Amount.total k.waiting.values
  rw [Table.values_map, Amount.total_scale]

omit [IsStrictOrderedRing K] in
/-- A run is announced in other units. -/
theorem announcement_scale (c : K) (n : Network K) (lastDay : Int) :
    (n.scale c).announcement lastDay = (n.announcement lastDay).scale c := by
  have hrivers : (n.scale c).rivers.values.map (n.scale c).riverSummary
      = (n.rivers.values.map n.riverSummary).map (RiverSummary.scale c) := by
    rw [scale, Table.values_map, List.map_map, List.map_map]
    refine List.map_congr_left fun r _ => ?_
    show RiverSummary.mk r.name (r.scale c).totalRain ((n.capacities.map (c * ·)).get? r.name) = _
    rw [River.totalRain, River.scale, Amount.total_scale, Table.get?_map]
    rfl
  have hdams : (n.scale c).dams.values.map Dam.summary
      = (n.dams.values.map Dam.summary).map (DamSummary.scale c) := by
    rw [scale, Table.values_map, List.map_map, List.map_map]
    rfl
  have hroutes : (n.scale c).flows.map Connection.describe = n.flows.map Connection.describe := by
    rw [scale, List.map_map]
    rfl
  rw [announcement, hrivers, hdams, hroutes]
  rfl

omit [IsStrictOrderedRing K] in
/-- Rivers have a capacity in any unit or in none. -/
theorem withoutCapacity_scale (c : K) (n : Network K) :
    (n.scale c).withoutCapacity = n.withoutCapacity := by
  unfold withoutCapacity
  rw [scale, Table.keys_map]
  refine List.filter_congr fun name _ => ?_
  simp only [Table.contains, Table.get?_map, Option.isSome_map]

omit [IsStrictOrderedRing K] in
/-- A run takes as many days in any unit. -/
theorem lastDay_scale (c : K) (n : Network K) : (n.scale c).lastDay = n.lastDay := by
  unfold lastDay
  rw [scale, Table.values_map, List.map_map]
  simp only [Function.comp_def, River.scale, List.length_map]

end Network

namespace Simulation

/-! ### Day after day -/

omit [IsStrictOrderedRing K] in
/-- A simulation starts in other units as it does in its own. -/
theorem start_scale (c : K) (settings : Settings K) (share : K) (n : Network K) :
    start (settings.scale c) share (n.scale c) = (start settings share n).scale c := by
  rw [start, start, scale, Network.scale, Table.map_map, Table.map_map]
  rfl

/-- A day of a simulation leads to the same in other units. -/
theorem step_scale (hc : 0 < c) (s : Simulation K) (n : Network K) (day : Int) :
    (s.scale c).step (n.scale c) day = (s.step n day).scale c := by
  have houtcome : (n.scale c).day (s.scale c).storm (s.scale c).share day
      = (n.day s.storm s.share day).scale c := n.day_scale hc s.storm s.share day
  have hrecord :
      recordReleases (s.scale c).releases ((n.day s.storm s.share day).scale c).released.entries
      = _ := recordReleases_scale c s.releases (n.day s.storm s.share day).released.entries
  unfold step
  rw [houtcome]
  dsimp only
  rw [hrecord]
  generalize recordReleases s.releases (n.day s.storm s.share day).released.entries = recorded
  obtain ⟨releases, error⟩ := recorded
  cases error with
  | some e => rfl
  | none =>
    simp only [Progress.scale, scale, DayOutcome.scale, Network.volumes_scale, List.map_append]
    rfl

/-- The days of a simulation lead to the same in other units. The induction is on the days that
are left. -/
theorem days_scale (hc : 0 < c) (last : Nat) (s : Simulation K) (n : Network K) (day left : Nat) :
    (s.scale c).days last (n.scale c) day left = (s.days last n day left).scale c := by
  -- The induction is on the days that are left.
  induction left generalizing s n day with
  | zero => rfl
  | succ left ih =>
    simp only [days, step_scale hc]
    cases herror : (s.step n day).error with
    | some e =>
      have herror' : ((s.step n day).scale c).error = some e := herror
      rw [herror']
      rfl
    | none =>
      have herror' : ((s.step n day).scale c).error = none := herror
      have hrest := ih (s.step n day).simulation (s.step n day).network (day + 1)
      change days last ((s.step n day).scale c).simulation ((s.step n day).scale c).network
        (day + 1) left
        = _ at hrest
      rw [herror', hrest]
      simp only [Progress.scale, List.map_append, List.map_cons]
      rfl

/-- What is told at the end of a run is told in other units. -/
theorem finalEvents_scale (hc : 0 < c) (s : Simulation K) (n : Network K) :
    (s.scale c).finalEvents (n.scale c) = (s.finalEvents n).map (Event.scale c) := by
  have hrivers : (n.scale c).rivers.values = n.rivers.values.map (River.scale c) :=
    Table.values_map _ _
  unfold finalEvents
  rw [hrivers, List.flatMap_map, List.map_flatMap]
  exact List.flatMap_congr fun r _ => Network.finalEvents_scale hc s.limits n r

/-- The report of a run is made in other units. -/
theorem finish_scale (hc : 0 < c) (s : Simulation K) (n : Network K) (lastDay : Int) :
    (s.scale c).finish (n.scale c) lastDay = (s.finish n lastDay).scale c := by
  have hlevels : (n.scale c).dams.map (·.level) = (n.dams.map (·.level)).map (c * ·) := by
    rw [Network.scale, Table.map_map, Table.map_map]
    rfl
  have hwarnings : (n.scale c).findings (s.scale c).limits Finding.near?
      = n.findings s.limits Finding.near? := by
    have hsame : ∀ found : Finding K, (found.scale c).near? = found.near?.map id :=
      fun found => by
      rw [found.near?_scale, Option.map_id, id_eq]
    exact (Network.findings_scale hc s.limits n hsame).trans (Table.map_id _)
  have hoverflows : (n.scale c).findings (s.scale c).limits Finding.beyond?
      = (n.findings s.limits Finding.beyond?).map (c * ·) :=
    Network.findings_scale hc s.limits n (Finding.beyond?_scale c)
  unfold finish
  rw [Network.volumes_scale, hlevels, Network.inTransit_scale, hwarnings, hoverflows]
  rfl

/-- A run does the same in any unit. -/
theorem run_scale (hc : 0 < c) (s : Simulation K) (n : Network K) :
    (s.scale c).run (n.scale c) = ((s.run n).1.scale c, (s.run n).2.map (RunReport.scale c)) := by
  unfold run Network.obstacle? Network.obstacleNotices
  -- Neither what keeps a network from being run nor the number of days is an amount.
  rw [Network.withoutCapacity_scale, Network.lastDay_scale]
  cases n.withoutCapacity with
  | cons name names => rfl
  | nil =>
    dsimp only
    rw [days_scale hc, Network.announcement_scale]
    generalize s.days n.lastDay n 1 n.lastDay = body
    obtain ⟨m, t, events, notices, error⟩ := body
    cases error with
    | some e => rfl
    | none =>
      refine Prod.ext ?_ (congrArg some (finish_scale hc t m n.lastDay))
      simp only [Progress.scale, finalEvents_scale hc, List.map_append, List.map_cons]

end Simulation

end

/-! ### Networks that texts declare -/

namespace Network

section

variable {K : Type} [Field K] [LinearOrder K] [Amount.Exact K] {n : Network K}

/-- Where there is no water yet, only rain and capacities are amounts of it. -/
theorem scale_of_plan_eq (hplan : n.plan = n) (c : K) :
    n.scale c = { n with
      rivers := n.rivers.map fun r => { r with rain := r.rain.map (c * ·) }
      dams := n.dams.map fun d => { d with capacity := c * d.capacity }
      capacities := n.capacities.map (c * ·) } := by
  have hrivers : n.rivers.map (River.scale c)
      = n.rivers.map fun r => { r with rain := r.rain.map (c * ·) } := by
    refine Table.mapWithKey_congr fun name r hr => ?_
    rw [River.scale, volume_eq_zero_of_plan_eq hplan hr, mul_zero]
  have hdams :
      n.dams.map (Dam.scale c) = n.dams.map fun d => { d with capacity := c * d.capacity } := by
    refine Table.mapWithKey_congr fun name d hd => ?_
    rw [Dam.scale, level_eq_zero_of_plan_eq hplan hd, mul_zero]
  have hflows : n.flows.map (Connection.scale c) = n.flows := by
    refine (List.map_congr_left fun k hk => ?_).trans (List.map_id _)
    have hwaiting : k.waiting.map (c * ·) = k.waiting := by
      rw [waiting_eq_empty_of_plan_eq hplan hk]
      rfl
    rw [Connection.scale, hwaiting, id_eq]
  rw [scale, hrivers, hdams, hflows]

variable [IsStrictOrderedRing K]

/-- A network that a text declares, and the same network in other units: all rain and all
capacities are multiplied by a factor above nought, and so is the limit of heavy rain. Then all
amounts that a run reports are, too: what rivers hold at the end and after each day, the levels of
dams and what they let go each day, what is under way, and what rivers hold above their limits.
The rivers that are close to their capacity are the same, with the same percentages, and so are
those that are over it. A run has the same number of days, and if it is not carried out, that is
for the same reason. -/
theorem run_is_the_same_in_other_units {text : String} (h : ofText? text = some n)
    (settings : Settings K) (share : K) {c : K} (hc : 0 < c) :
    let n' : Network K := { n with
      rivers := n.rivers.map fun r => { r with rain := r.rain.map (c * ·) }
      dams := n.dams.map fun d => { d with capacity := c * d.capacity }
      capacities := n.capacities.map (c * ·) }
    let settings' : Settings K :=
      { settings with storm := { settings.storm with heavyRain := c * settings.storm.heavyRain } }
    let run := (Simulation.start settings share n).run n
    let run' := (Simulation.start settings' share n').run n'
    n'.lastDay = n.lastDay ∧ run'.1.error = run.1.error ∧
      run'.2 = run.2.map fun report =>
        { outflowDays := report.outflowDays
          lastDay := report.lastDay
          volumes := report.volumes.map (c * ·)
          damLevels := report.damLevels.map (c * ·)
          history := report.history.map (Table.map (c * ·))
          releases := report.releases.map (List.map (c * ·))
          inTransit := c * report.inTransit
          warnings := report.warnings
          overflows := report.overflows.map (c * ·) } := by
  intro n' settings' run run'
  -- Nothing has flowed in a declared network, so to scale its plan is to scale all of it.
  have hn : n' = n.scale c := (scale_of_plan_eq (fresh_of_text h).plan_eq c).symm
  have hstart :
      Simulation.start settings' share n' = (Simulation.start settings share n).scale c := by
    rw [hn]
    exact Simulation.start_scale c settings share n
  have hrun : run' = (run.1.scale c, run.2.map (RunReport.scale c)) := by
    simp only [run']
    rw [hstart, hn, Simulation.run_scale hc]
  refine ⟨hn ▸ lastDay_scale c n, ?_, ?_⟩
  · rw [hrun]
    rfl
  · rw [hrun]
    rfl

end

/-- Megalitres, counted in kilolitres. The dam meets heavy rain on the fourth day, one river is
over its capacity, and one is close to it. -/
theorem run_is_the_same_in_other_units_kilolitres :
    let text := "River a = [30, 10]mm; Capacity a = 4ML; Dam d = 20ML release 50%; d = 12mm; " ++
      "Flow f = a -> d; River b = 9mm; Capacity b = 10ML;"
    let kilolitres : Settings Rat :=
      { (Settings.default : Settings Rat) with
        storm := { (Settings.default : Settings Rat).storm with heavyRain := 1000 * 10 } }
    ∃ (n n' : Network Rat) (report report' : RunReport Rat),
      ofText? text = some n ∧ (0 : Rat) < 1000 ∧
      n' = { n with
        rivers := n.rivers.map fun r => { r with rain := r.rain.map (1000 * ·) }
        dams := n.dams.map fun d => { d with capacity := 1000 * d.capacity }
        capacities := n.capacities.map (1000 * ·) } ∧
      ((Simulation.start .default (1 / 2) n).run n).2 = some report ∧
      ((Simulation.start kilolitres (1 / 2) n').run n').2 = some report' ∧
      report.releases.entries = [("d", [0, 5, 25 / 2, 77 / 4])] ∧
      report'.releases.entries = [("d", [0, 5000, 12500, 19250])] ∧
      report.overflows.entries = [("a", 9 / 4)] ∧ report'.overflows.entries = [("a", 2250)] ∧
      report'.warnings.entries = [("b", 90)] := by
  intro text kilolitres
  have hreported : (ofText? text).bind (fun n : Network Rat =>
      ((Simulation.start .default (1 / 2) n).run n).2.map fun report =>
        (report.releases.entries, report.overflows.entries, report.warnings.entries))
      = some ([("d", [0, 5, 25 / 2, 77 / 4])], [("a", 9 / 4)], [("b", 90)]) := by
    decide +kernel
  obtain ⟨n, hn, hreported⟩ := Option.bind_eq_some_iff.mp hreported
  obtain ⟨report, hreport, hfound⟩ := Option.map_eq_some_iff.mp hreported
  obtain ⟨hreleases, hfound⟩ := Prod.mk.inj hfound
  obtain ⟨hoverflows, hwarnings⟩ := Prod.mk.inj hfound
  have hc : (0 : Rat) < 1000 := by decide +kernel
  obtain ⟨-, -, hrun⟩ := run_is_the_same_in_other_units hn .default (1 / 2) hc
  rw [hreport] at hrun
  refine ⟨n, _, report, _, hn, hc, rfl, hreport, hrun, hreleases, ?_, hoverflows, ?_, hwarnings⟩
  · show report.releases.entries.map (fun e => (e.1, e.2.map (1000 * ·))) = _
    rw [hreleases]
    decide +kernel
  · show report.overflows.entries.map (fun e => (e.1, 1000 * e.2)) = _
    rw [hoverflows]
    decide +kernel

end Network

end Catchment
