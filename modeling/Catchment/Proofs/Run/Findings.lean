import Catchment.Proofs.Run.Account

/-!
# `Catchment.Proofs.Run.Findings`: what is found of a river at the end

At the end of a run every river is measured against the capacity that is declared for it,
and a river without such a capacity is passed over. What is found depends on a percentage,
and what a river has too much on a limit in volume. In an ordered field the one limit is
reached exactly where the other is, and a river that can hold nothing has reached every
percentage as soon as there is anything in it. Since no river ever holds less than nothing,
nothing found to be too much is below nought.

* `Finding.of_pos`, `Finding.of_zero`: what is found of a river, by its capacity.
* `Network.entries_findings`: what is found of all rivers, in their order.
* `Event.near?`, `Event.beyond?`: what events tell of findings.
* `Network.final_report_goes_by_capacities`: the end of a run.
-/

set_option autoImplicit false

namespace Catchment

/-! ### One river -/

section

variable {K : Type} [Field K] [LinearOrder K] [IsStrictOrderedRing K] [Amount.Exact K]
  {limits : Limits K} {volume capacity : K}

namespace Finding

/-- What is found of a river that can hold something. The limit in percent is reached exactly
where the limit in volume is. -/
theorem of_pos (hcapacity : 0 < capacity) :
    of limits volume (some capacity)
      = if capacity * limits.overflowPercent / 100 ≤ volume then
          beyond (volume - capacity * limits.overflowPercent / 100)
        else if limits.warningPercent ≤ 100 * volume / capacity then
          near (100 * volume / capacity)
        else nothing := by
  have hpercent : volume / capacity * 100 = 100 * volume / capacity := by ring
  have hreached : limits.overflowPercent ≤ 100 * volume / capacity ↔
      capacity * limits.overflowPercent / 100 ≤ volume := by
    rw [le_div_iff₀ hcapacity, div_le_iff₀ (by norm_num : (0 : K) < 100), mul_comm capacity,
      mul_comm volume]
  have hfullness : Fullness.of volume capacity = .percent (100 * volume / capacity) := by
    rw [Fullness.of, Amount.zero_eq, if_pos hcapacity]
    exact congrArg Fullness.percent hpercent
  simp only [of, hfullness, Fullness.reaches, decide_eq_true_eq, hreached]

/-- What is found of a river that can hold nothing. -/
theorem of_zero (hvolume : 0 ≤ volume) (hoverflow : 0 ≤ limits.overflowPercent)
    (hwarning : 0 ≤ limits.warningPercent) :
    of limits volume (some 0)
      = if 0 < volume ∨ limits.overflowPercent = 0 then beyond volume
        else if limits.warningPercent = 0 then near 0
        else nothing := by
  have hexcess : volume - 0 * limits.overflowPercent / 100 = volume := by ring
  -- A river that holds something has reached every percentage, and an empty one has reached only
  -- nought.
  rcases hvolume.lt_or_eq with hpos | rfl
  · have hfullness : Fullness.of volume 0 = .unbounded := by
      rw [Fullness.of, Amount.zero_eq, if_neg (lt_irrefl _), if_pos hpos]
    rw [of, hfullness, Fullness.reaches, if_pos rfl, if_pos (Or.inl hpos)]
    exact congrArg beyond hexcess
  · have hfullness : Fullness.of (0 : K) 0 = .percent 0 := by
      rw [Fullness.of, Amount.zero_eq, if_neg (lt_irrefl _), if_neg (lt_irrefl _)]
    simp only [of, hfullness, Fullness.reaches, decide_eq_true_eq, hoverflow.ge_iff_eq',
      hwarning.ge_iff_eq', lt_irrefl, false_or]
    exact ite_congr rfl (fun _ => congrArg beyond hexcess) fun _ => rfl

end Finding

end

/-! ### All rivers -/

section

variable {α : Type}

namespace Event

/-- The river that an event says is close to its capacity, and the percentage. -/
def near? : Event α → Option (String × α)
  | nearCapacity river percent => some (river, percent)
  | started .. | dayBegun _ | rained .. | arrived .. | regulated .. | scheduled ..
  | finalVolume ..
  | overCapacity .. => none

/-- The river that an event says is over its capacity, and the excess. -/
def beyond? : Event α → Option (String × α)
  | overCapacity river excess => some (river, excess)
  | started .. | dayBegun _ | rained .. | arrived .. | regulated .. | scheduled ..
  | finalVolume ..
  | nearCapacity .. => none

/-- The events that tell what is reported of a river, if anything is. -/
def ofReport (river : String) (excess percent : Option α) : List (Event α) :=
  (excess.map (overCapacity river)).toList ++ (percent.map (nearCapacity river)).toList

end Event

namespace Finding

/-- What is told of a finding is what the two reports say of it. -/
theorem events_eq (river : String) (f : Finding α) :
    f.events river = Event.ofReport river f.beyond? f.near? := by
  cases f <;> rfl

/-- A river is not both beyond its capacity and near it. -/
theorem beyond?_eq_none_or (f : Finding α) : f.beyond? = none ∨ f.near? = none := by
  cases f with
  | nothing | near _ => exact Or.inl rfl
  | beyond _ => exact Or.inr rfl

/-- What is reported of a finding that goes by two conditions. -/
theorem reports_of_eq {f : Finding α} {P Q : Prop} [Decidable P] [Decidable Q]
    {excess percent : α}
    (h : f = if P then beyond excess else if Q then near percent else nothing) :
    ((∃ x, f.beyond? = some x) ↔ P) ∧ (∀ x, f.beyond? = some x → P ∧ x = excess) ∧
      ∀ p, f.near? = some p ↔ ¬P ∧ Q ∧ p = percent := by
  subst h
  split
  · rename_i hP
    simp [beyond?, near?, hP, eq_comm]
  · rename_i hP
    split
    · rename_i hQ
      simp [beyond?, near?, hP, hQ, eq_comm]
    · rename_i hQ
      simp [beyond?, near?, hP, hQ]

end Finding

variable [Amount α] {limits : Limits α} {n m : Network α} {what : Finding α → Option α}

namespace Network

/-- What is found of all rivers stands in their order. -/
theorem entries_findings (hwf : n.WellFormed) (what : Finding α → Option α) :
    (n.findings limits what).entries
      = n.rivers.entries.filterMap fun e =>
        (what (n.finding limits e.2)).map fun a => (e.1, a) := by
  have hlist :
      (n.rivers.values.filterMap fun r => (what (n.finding limits r)).map fun a => (r.name, a))
      = n.rivers.entries.filterMap fun e =>
        (what (n.finding limits e.2)).map fun a => (e.1, a) := by
    rw [Table.values, List.filterMap_map]
    refine List.filterMap_congr fun e he => ?_
    rw [Function.comp_apply, hwf.river_name ((Table.mem_entries _ _ _).mp he)]
  -- The rivers that are listed are some of all rivers, so none is listed twice.
  have hkeys := Table.keys_filterMap_sublist (fun r => what (n.finding limits r)) n.rivers.entries
  rw [findings, hlist]
  exact Table.entries_ofList (hkeys.nodup n.rivers.nodup)

/-- The rivers of which something is found are rivers, in their order. -/
theorem keys_findings_sublist (hwf : n.WellFormed) (what : Finding α → Option α) :
    (n.findings limits what).keys.Sublist n.rivers.keys := by
  rw [Table.keys, entries_findings hwf]
  exact Table.keys_filterMap_sublist (fun r => what (n.finding limits r)) n.rivers.entries

/-- What is found of a river is found under its name. -/
theorem get?_findings (hwf : n.WellFormed) (what : Finding α → Option α) (name : String) :
    (n.findings limits what).get? name = (n.rivers.get? name).bind fun r =>
      what (n.finding limits r) := by
  refine Option.ext fun a => ?_
  rw [← Table.mem_entries, entries_findings hwf, List.mem_filterMap, Option.bind_eq_some_iff]
  constructor
  · rintro ⟨⟨river, r⟩, hmem, hfound⟩
    obtain ⟨a', ha', heq⟩ := Option.map_eq_some_iff.mp hfound
    cases heq
    exact ⟨r, (Table.mem_entries _ _ _).mp hmem, ha'⟩
  · rintro ⟨r, hr, ha⟩
    exact ⟨(name, r), (Table.mem_entries _ _ _).mpr hr, Option.map_eq_some_iff.mpr ⟨a, ha, rfl⟩⟩

/-- What is reported of a river whose finding goes by two conditions. -/
theorem reported_of_eq (hwf : n.WellFormed) {name : String} {r : River α}
    (hr : n.rivers.get? name = some r) {P Q : Prop} [Decidable P] [Decidable Q]
    {excess percent : α}
    (h : Finding.of limits r.volume (n.capacities.get? name)
      = if P then .beyond excess else if Q then .near percent else .nothing) :
    (name ∈ (n.findings limits Finding.beyond?).keys ↔ P) ∧
      (∀ x, (n.findings limits Finding.beyond?).get? name = some x → P ∧ x = excess) ∧
      ∀ p, (n.findings limits Finding.near?).get? name = some p ↔ ¬P ∧ Q ∧ p = percent := by
  have hfinding : n.finding limits r = Finding.of limits r.volume (n.capacities.get? name) := by
    rw [finding, hwf.river_name hr]
  rw [Table.mem_keys, get?_findings hwf, get?_findings hwf, hr]
  exact Finding.reports_of_eq (hfinding.trans h)

/-- At the end every river is told with what it holds, and right behind it what is reported of
it. -/
theorem flatMap_finalEvents (hwf : n.WellFormed) :
    n.rivers.values.flatMap (n.finalEvents limits)
      = n.volumes.entries.flatMap fun e => .finalVolume e.1 e.2 (n.capacities.get? e.1) ::
          Event.ofReport e.1 ((n.findings limits Finding.beyond?).get? e.1)
            ((n.findings limits Finding.near?).get? e.1) := by
  have hentries : n.volumes.entries = n.rivers.entries.map fun e => (e.1, e.2.volume) := rfl
  rw [hentries, Table.values, List.flatMap_map, List.flatMap_map]
  refine List.flatMap_congr fun e he => ?_
  have hr : n.rivers.get? e.1 = some e.2 := (Table.mem_entries _ _ _).mp he
  rw [get?_findings hwf, get?_findings hwf, hr, finalEvents, Finding.events_eq, hwf.river_name hr]
  rfl

/-- What is told of some findings at the end is what is reported of them. -/
theorem filterMap_finalEvents (hwf : n.WellFormed) {tell : Event α → Option (String × α)}
    (h : ∀ river volume capacity f, (Event.finalVolume river volume capacity ::
      Finding.events river f).filterMap tell = ((what f).map fun a => (river, a)).toList) :
    (n.rivers.values.flatMap (n.finalEvents limits)).filterMap tell
      = (n.findings limits what).entries := by
  rw [entries_findings hwf, List.filterMap_flatMap, Table.values, List.flatMap_map,
    List.filterMap_eq_flatMap_toList]
  refine List.flatMap_congr fun e he => ?_
  have hr : n.rivers.get? e.1 = some e.2 := (Table.mem_entries _ _ _).mp he
  rw [finalEvents, h, hwf.river_name hr]

/-- A day tells of no findings. -/
theorem not_isFinding_day {rule : StormRule α} {share : α} {day : Int} {e : Event α}
    (he : e ∈ (n.day rule share day).events) (river : String) : ¬ e.IsFinding river := by
  rcases List.mem_append.mp he with he | he
  · rcases List.mem_append.mp he with he | he
    · obtain ⟨_, _, _, rfl⟩ := mem_rainEvents he
      exact nofun
    · cases (arrivalsOn_tells rule day (n.takeRain day)).1 e he <;> exact nofun
  · obtain ⟨_, _, _, rfl⟩ := mem_events_outflowOn he
    exact nofun

end Network

omit [Amount α] in
/-- What tells of no finding tells of no river close to its capacity. -/
theorem Event.near?_eq_none {e : Event α} (h : ∀ river, ¬ e.IsFinding river) :
    e.near? = none := by
  cases e with
  | nearCapacity river percent => exact absurd (.near percent) (h river)
  | _ => rfl

omit [Amount α] in
/-- What tells of no finding tells of no river over its capacity. -/
theorem Event.beyond?_eq_none {e : Event α} (h : ∀ river, ¬ e.IsFinding river) :
    e.beyond? = none := by
  cases e with
  | overCapacity river excess => exact absurd (.beyond excess) (h river)
  | _ => rfl

/-- What a run tells of findings is what it tells at the end, and what it reports is found in the
network at the end. -/
theorem Simulation.found_of_run {settings : Settings α} {share : α} {progress : Progress α}
    {report : RunReport α} (hrun : (start settings share n).run n = (progress, some report)) :
    let m := n.afterDays settings.storm share n.lastDay
    report.volumes = m.volumes ∧ report.overflows = m.findings settings.limits Finding.beyond? ∧
      report.warnings = m.findings settings.limits Finding.near? ∧
      ∃ before, (∀ e ∈ before, ∀ river, ¬ e.IsFinding river) ∧
        progress.events = before ++ m.rivers.values.flatMap (m.finalEvents settings.limits) := by
  have hcapacity : n.withoutCapacity = [] := withoutCapacity_of_report (congrArg Prod.snd hrun)
  rw [run_eq (Table.keys_map _ _) hcapacity, Prod.mk.injEq, Option.some.injEq] at hrun
  obtain ⟨rfl, rfl⟩ := hrun
  refine ⟨rfl, rfl, rfl, _, fun e he river => ?_, rfl⟩
  rcases List.mem_cons.mp he with rfl | he
  · exact nofun
  obtain ⟨d, -, he⟩ := List.mem_flatMap.mp he
  rcases List.mem_cons.mp he with rfl | he
  · exact nofun
  · exact Network.not_isFinding_day he river

end

/-! ### The end of a run -/

namespace Network

variable {K : Type} [Field K] [LinearOrder K] [IsStrictOrderedRing K] [Amount.Exact K]

/-- The end of a run of a network that a text declares. A river without a declared capacity is not
reported. Any other is over its capacity from the limit in volume on, or if it can hold nothing,
as soon as it holds something or the limit is nought, and the excess is not below nought.
Otherwise it is close to its capacity from the other percentage on. No river is both. The events
tell of nothing else than what is reported, in the order of the rivers, right behind what the
river holds. -/
theorem final_report_goes_by_capacities {text : String} {n : Network K}
    (h : ofText? text = some n) {settings : Settings K}
    (hwarning : 0 ≤ settings.limits.warningPercent)
    (hoverflow : 0 ≤ settings.limits.overflowPercent) {share : K} {progress : Progress K}
    {report : RunReport K}
    (hrun : (Simulation.start settings share n).run n = (progress, some report)) :
    let w := settings.limits.warningPercent
    let o := settings.limits.overflowPercent
    (∀ river v, report.volumes.get? river = some v →
      (n.capacities.get? river = none →
        river ∉ report.overflows.keys ∧ river ∉ report.warnings.keys) ∧
      ∀ c, n.capacities.get? river = some c → 0 ≤ c ∧
        (0 < c → (river ∈ report.overflows.keys ↔ c * o / 100 ≤ v) ∧
          ∀ p, report.warnings.get? river = some p ↔
            river ∉ report.overflows.keys ∧ w ≤ 100 * v / c ∧ p = 100 * v / c) ∧
        (c = 0 → (river ∈ report.overflows.keys ↔ 0 < v ∨ o = 0) ∧
          ∀ p, report.warnings.get? river = some p ↔ v = 0 ∧ 0 < o ∧ w = 0 ∧ p = 0) ∧
        ∀ excess, report.overflows.get? river = some excess →
          excess = v - c * o / 100 ∧ 0 ≤ excess) ∧
      (∀ river, river ∉ report.overflows.keys ∨ river ∉ report.warnings.keys) ∧
      report.overflows.keys.Sublist report.volumes.keys ∧
      report.warnings.keys.Sublist report.volumes.keys ∧
      progress.events.filterMap Event.beyond? = report.overflows.entries ∧
      progress.events.filterMap Event.near? = report.warnings.entries ∧
      ∃ before, (∀ e ∈ before, ∀ river, ¬ e.IsFinding river) ∧
        progress.events = before ++ report.volumes.entries.flatMap fun (river, v) =>
          .finalVolume river v (n.capacities.get? river) ::
            Event.ofReport river (report.overflows.get? river) (report.warnings.get? river) := by
  intro w o
  have hfresh : n.Fresh (0 ≤ ·) := fresh_of_text h
  have hplan := n.plan_afterDays settings.storm share n.lastDay
  have hnonneg : (n.afterDays settings.storm share n.lastDay).Nonneg :=
    Nonneg.afterDays (fun _ _ hr => (volume_eq_zero_of_plan_eq hfresh.plan_eq hr).ge) n.lastDay
  obtain ⟨hvolumes, hoverflows, hwarnings, before, hbefore, hevents⟩ :=
    Simulation.found_of_run hrun
  -- From here on the days do not matter, only the network that they lead to.
  generalize n.afterDays settings.storm share n.lastDay = m at *
  have hwf : m.WellFormed := hfresh.wellFormed.of_plan_eq hplan
  have hcapacities : m.capacities = n.capacities := (congrArg Network.capacities hplan :)
  have hkeys : m.volumes.keys = m.rivers.keys := Table.keys_map _ _
  have hover : ∀ river, (m.findings settings.limits Finding.beyond?).get? river = _ :=
    get?_findings hwf Finding.beyond?
  have hnear : ∀ river, (m.findings settings.limits Finding.near?).get? river = _ :=
    get?_findings hwf Finding.near?
  rw [hvolumes, hoverflows, hwarnings, hevents, ← hcapacities]
  refine ⟨fun river v hv => ?_, fun river => ?_, hkeys ▸ keys_findings_sublist hwf _,
    hkeys ▸ keys_findings_sublist hwf _, ?_, ?_, before, hbefore, ?_⟩
  · rw [get?_volumes] at hv
    obtain ⟨r, hr, rfl⟩ := Option.map_eq_some_iff.mp hv
    have hvolume : 0 ≤ r.volume := hnonneg hr
    refine ⟨fun hnone => ?_, fun c hc => ?_⟩
    · have hsilent : m.finding settings.limits r = .nothing := by
        rw [finding, hwf.river_name hr, hnone]
        rfl
      rw [← Table.get?_eq_none_iff, ← Table.get?_eq_none_iff, hover, hnear, hr, Option.bind_some,
        Option.bind_some, hsilent]
      exact ⟨rfl, rfl⟩
    have hcapacity : 0 ≤ c := hfresh.all.capacity (hcapacities ▸ hc)
    have hfinding := congrArg (Finding.of settings.limits r.volume) hc
    -- A river that can hold nothing has no percentage, so it is compared in another way.
    rcases hcapacity.lt_or_eq with hpos | rfl
    · obtain ⟨hiff, hexcess, hpercent⟩ :=
        reported_of_eq hwf hr (hfinding.trans (Finding.of_pos hpos))
      refine ⟨hcapacity, fun _ => ⟨hiff, fun p => by rw [hpercent, hiff]⟩,
        fun hzero => absurd hzero hpos.ne', fun excess hx => ?_⟩
      obtain ⟨hreached, rfl⟩ := hexcess excess hx
      exact ⟨rfl, sub_nonneg.mpr hreached⟩
    · obtain ⟨hiff, hexcess, hpercent⟩ := reported_of_eq hwf hr
        (hfinding.trans (Finding.of_zero hvolume hoverflow hwarning))
      refine ⟨le_rfl, fun hpos => absurd hpos (lt_irrefl _), fun _ => ⟨hiff, fun p => ?_⟩,
        fun excess hx => ?_⟩
      · have hlimit : ¬o = 0 ↔ 0 < o := hoverflow.lt_iff_ne'.symm
        rw [hpercent, not_or, not_lt, hvolume.ge_iff_eq', hlimit, and_assoc]
      · obtain ⟨-, rfl⟩ := hexcess excess hx
        exact ⟨by ring, hvolume⟩
  · rw [← Table.get?_eq_none_iff, ← Table.get?_eq_none_iff, hover, hnear]
    cases m.rivers.get? river with
    | none => exact Or.inl rfl
    | some r => exact (m.finding settings.limits r).beyond?_eq_none_or
  · have hnone : before.filterMap Event.beyond? = [] :=
      List.filterMap_eq_nil_iff.mpr fun e he => Event.beyond?_eq_none (hbefore e he)
    rw [List.filterMap_append, hnone]
    refine filterMap_finalEvents hwf fun river volume capacity f => ?_
    cases f <;> rfl
  · have hnone : before.filterMap Event.near? = [] :=
      List.filterMap_eq_nil_iff.mpr fun e he => Event.near?_eq_none (hbefore e he)
    rw [List.filterMap_append, hnone]
    refine filterMap_finalEvents hwf fun river volume capacity f => ?_
    cases f <;> rfl
  · rw [flatMap_finalEvents hwf]

/-- A river at its limit, one that is close to it, and one that can hold nothing and holds
something. -/
theorem final_report_goes_by_capacities_brim :
    let text := "River a = 10mm; River b = 9mm; River c = 1mm; " ++
      "Capacity a = 10ML; Capacity b = 10ML; Capacity c = 0ML;"
    ∃ (n : Network Rat) (progress : Progress Rat) (report : RunReport Rat),
      ofText? text = some n ∧
      (0 ≤ (Settings.default : Settings Rat).limits.warningPercent ∧
        0 ≤ (Settings.default : Settings Rat).limits.overflowPercent) ∧
      (Simulation.start .default (9 / 10) n).run n = (progress, some report) ∧
      progress.events.filterMap Event.beyond? = [("a", 0), ("c", 1)] ∧
      progress.events.filterMap Event.near? = [("b", 90)] := by
  intro text
  have hreported : (ofText? text).bind (fun n : Network Rat =>
      ((Simulation.start .default (9 / 10) n).run n).2.map fun report =>
        (report.overflows.entries, report.warnings.entries))
      = some ([("a", 0), ("c", 1)], [("b", 90)]) := by
    decide +kernel
  obtain ⟨n, hn, hreported⟩ := Option.bind_eq_some_iff.mp hreported
  obtain ⟨report, hreport, hfound⟩ := Option.map_eq_some_iff.mp hreported
  obtain ⟨hoverflows, hwarnings⟩ := Prod.mk.inj hfound
  have hlimits : 0 ≤ (Settings.default : Settings Rat).limits.warningPercent ∧
      0 ≤ (Settings.default : Settings Rat).limits.overflowPercent := by decide +kernel
  have hrun : (Simulation.start .default (9 / 10) n).run n = (_, some report) :=
    Prod.ext rfl hreport
  obtain ⟨-, -, -, -, hover, hnear, -⟩ :=
    final_report_goes_by_capacities hn hlimits.1 hlimits.2 hrun
  exact ⟨n, _, report, hn, hlimits, hrun, hover.trans hoverflows, hnear.trans hwarnings⟩

end Network

end Catchment
