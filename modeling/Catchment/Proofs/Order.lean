import Catchment.Proofs.Day.Reordered
import Catchment.Proofs.Simulation

/-!
# `Catchment.Proofs.Order`: when the order of the connections matters

A network is run with its connections in another order. Nothing in the report
depends on the order as long as on no day a dam meets heavy rain and comes to
another level if something else comes in first. Once there is such a day, the order
matters: with the right connection in front, the dam lets go another amount on
that day.

* `afterDays_withFlows`: the days of a run, while the order does not matter.
* `report_withFlows`: the report, if the order matters on no day.
* `report_withFlows_of_calm`: the report, if no heavy rain falls on a dam.
* `AtRest.get?_released_day_of_arrivals`: what a dam lets go on a day on which something arrives.
* `orderFree_of_report`: the order matters if it matters on some day.
* `order_is_free_iff`: the run of a network that a text declares.
-/

set_option autoImplicit false

namespace Catchment

namespace Network

variable {s : Simulation Rat} {n : Network Rat}

/-! ### While the order does not matter -/

/-- The first days of a run, while the order does not matter: every connection is changed in the
same way, and the rest of the network as well. -/
theorem afterDays_withFlows (hrule : s.storm.Admissible) (h : s.Underway n) (k : Nat)
    (hfree : ∀ d, 1 < d → d ≤ k →
      (n.afterDays s.storm s.share (d - 1)).OrderFree s.storm d) :
    ∃ f : Connection Rat → Connection Rat,
      (n.afterDays s.storm s.share k).flows = n.flows.map f ∧
      ∀ {flows}, flows.Perm n.flows →
        (n.withFlows flows).afterDays s.storm s.share k
          = (n.afterDays s.storm s.share k).withFlows (flows.map f) := by
  -- The induction is on the days. What they do to a connection is put together day by day.
  induction k with
  | zero => exact ⟨id, (List.map_id _).symm, fun {flows} _ => by rw [List.map_id]; rfl⟩
  | succ k ih =>
    obtain ⟨f, hflows, hnetwork⟩ := ih fun d hd hk => hfree d hd (Nat.le_succ_of_le hk)
    have hk := h.afterDays k
    obtain ⟨g, hflows', hnetwork'⟩ := day_withFlows s.share (k + 1 : Nat) hrule hk.atRest
      hk.wellFormed hk.all fun hday => hfree (k + 1) (by omega) (le_refl _)
    refine ⟨g ∘ f, ?_, fun {flows} hperm => ?_⟩
    · rw [← List.map_map, ← hflows]
      exact hflows'
    · have hperm' : (flows.map f).Perm (n.afterDays s.storm s.share k).flows :=
        hflows ▸ hperm.map f
      rw [← List.map_map, afterDays, hnetwork hperm]
      exact (hnetwork' hperm').1

/-- What is let go on a day of a run, while the order does not matter. -/
theorem released_withFlows (hrule : s.storm.Admissible) (h : s.Underway n) {d : Nat} (hd : 1 ≤ d)
    (hfree : ∀ e, 1 < e → e ≤ d →
      (n.afterDays s.storm s.share (e - 1)).OrderFree s.storm e)
    {flows : List (Connection Rat)} (hperm : flows.Perm n.flows) :
    ((n.withFlows flows).dayOf s.storm s.share d).released
      = (n.dayOf s.storm s.share d).released := by
  obtain ⟨k, rfl⟩ : ∃ k, d = k + 1 := ⟨d - 1, by omega⟩
  have hk := h.afterDays k
  obtain ⟨f, hflows, hnetwork⟩ :=
    afterDays_withFlows hrule h k fun e he hek => hfree e he (Nat.le_succ_of_le hek)
  obtain ⟨_, -, hreleased⟩ := day_withFlows s.share (k + 1 : Nat) hrule hk.atRest
    hk.wellFormed hk.all fun hday => hfree (k + 1) (by omega) (le_refl _)
  have hperm' : (flows.map f).Perm (n.afterDays s.storm s.share k).flows := hflows ▸ hperm.map f
  rw [dayOf, Nat.add_sub_cancel, hnetwork hperm]
  exact (hreleased hperm').2

/-- The report at the end of a run does not look at the connections but for a sum, so their order
does not matter to it. -/
theorem finish_withFlows (s : Simulation Rat) (lastDay : Int) {flows : List (Connection Rat)}
    (hperm : flows.Perm n.flows) : s.finish (n.withFlows flows) lastDay = s.finish n lastDay := by
  have hinTransit : (n.withFlows flows).inTransit = n.inTransit := inTransit_withFlows hperm
  unfold Simulation.finish
  rw [hinTransit]
  rfl

/-- A simulation is under way with the connections in another order. -/
theorem underway_withFlows {flows : List (Connection Rat)} (hperm : flows.Perm n.flows)
    (h : s.Underway n) : s.Underway (n.withFlows flows) :=
  ⟨h.wellFormed.withFlows hperm, h.all.withFlows, h.atRest.withFlows hperm, h.keys⟩

/-- The report, if the order matters on no day. -/
theorem report_withFlows (hrule : s.storm.Admissible) (h : s.Underway n)
    (hfree : n.withoutCapacity = [] → ∀ d, 1 < d → d ≤ n.lastDay →
      (n.afterDays s.storm s.share (d - 1)).OrderFree s.storm d)
    {flows : List (Connection Rat)} (hperm : flows.Perm n.flows) :
    (s.run (n.withFlows flows)).2 = (s.run n).2 := by
  by_cases hcapacity : n.withoutCapacity = []
  · have hdays := hfree hcapacity
    -- The record of the days is the same.
    have hrecord : s.afterDays (n.withFlows flows) (List.range' 1 n.lastDay)
        = s.afterDays n (List.range' 1 n.lastDay) := by
      unfold Simulation.afterDays
      congr 1
      · -- The same volumes on every day.
        congr 1
        refine List.map_congr_left fun d hd => ?_
        obtain ⟨f, -, hnetwork⟩ := afterDays_withFlows hrule h d fun e he hed =>
          hdays e he (hed.trans (by simp at hd; omega))
        rw [hnetwork hperm]
        rfl
      · -- The same releases on every day.
        refine Table.mapWithKey_congr fun name amounts _ => ?_
        congr 1
        refine List.flatMap_congr fun d hd => ?_
        have hd' : 1 ≤ d ∧ d ≤ n.lastDay := by
          simp at hd
          omega
        rw [released_withFlows hrule h hd'.1 (fun e he hed => hdays e he (hed.trans hd'.2)) hperm]
    obtain ⟨f, hflows, hnetwork⟩ := afterDays_withFlows hrule h n.lastDay hdays
    have hperm' : (flows.map f).Perm (n.afterDays s.storm s.share n.lastDay).flows :=
      hflows ▸ hperm.map f
    rw [Simulation.run_eq h.keys hcapacity,
      Simulation.run_eq (underway_withFlows hperm h).keys hcapacity]
    show some ((s.afterDays (n.withFlows flows) (List.range' 1 n.lastDay)).finish
      ((n.withFlows flows).afterDays s.storm s.share n.lastDay) n.lastDay) = _
    rw [hrecord, hnetwork hperm, finish_withFlows _ _ hperm']
  · -- Whether a run is stopped before its first day has nothing to do with connections.
    have hnone : ∀ m : Network Rat, m.withoutCapacity ≠ [] → (s.run m).2 = none := by
      intro m hm
      cases hreport : (s.run m).2 with
      | none => rfl
      | some report => exact absurd (Simulation.withoutCapacity_of_report hreport) hm
    rw [hnone n hcapacity, hnone (n.withFlows flows) hcapacity]

/-- The report, if no heavy rain falls on a dam. -/
theorem report_withFlows_of_calm (hrule : s.storm.Admissible) (h : s.Underway n)
    (hcalm : ∀ {name r}, name ∈ n.dams.keys → n.rivers.get? name = some r →
      ∀ day, r.rainOn day ≤ s.storm.heavyRain)
    {flows : List (Connection Rat)} (hperm : flows.Perm n.flows) :
    (s.run (n.withFlows flows)).2 = (s.run n).2 := by
  refine report_withFlows hrule h (fun _ d _ _ => ?_) hperm
  intro name dam r hdam hr hbraces
  have hname : name ∈ n.dams.keys :=
    keys_dams_of_plan_eq (n.plan_afterDays s.storm s.share (d - 1)) ▸
      (Table.mem_keys _ _).mpr ⟨dam, hdam⟩
  -- The river has the rain that was declared, so the dam does not brace for it.
  have hrain : (n.rivers.get? name).map River.rain = some r.rain := by
    rw [← rain_of_plan_eq (n.plan_afterDays s.storm s.share (d - 1)), hr]
    rfl
  obtain ⟨q, hq, hsame⟩ := Option.map_eq_some_iff.mp hrain
  have hle : r.rainOn d ≤ s.storm.heavyRain := by
    have hdeclared := hcalm hname hq d
    unfold River.rainOn at hdeclared ⊢
    rwa [← hsame]
  rw [Dam.bracesFor, decide_eq_false (not_lt.mpr hle), Bool.false_and] at hbraces
  cases hbraces

/-! ### When the order matters -/

section

variable {rule : StormRule Rat} {day : Int} {name : String} {d : Dam Rat} {r : River Rat}
  (hrule : rule.Admissible) (hn : n.AtRest) (hwf : n.WellFormed) (hall : n.All (0 ≤ ·))
  (hday : 1 < day) (hd : n.dams.get? name = some d) (hr : n.rivers.get? name = some r)
  (hne : amountsTo name n.arrivals ≠ [])

include hrule hn hwf hall hday hd hr hne

/-- Where a dam and its river stand when the arrivals of a day are over, and what the dam has let
go by then. -/
theorem AtRest.get?_atOutflow :
    (n.atOutflow rule day).dams.get? name = some
        { d with level := d.levelAfter rule (r.rainOn day) (amountsTo name n.arrivals) } ∧
      (n.atOutflow rule day).rivers.get? name = some { r.takeRain day with
        volume := d.levelAfter rule (r.rainOn day) (amountsTo name n.arrivals) } ∧
      (n.releasedOn rule day).get? name
        = some (d.releaseAfter rule (r.rainOn day) (amountsTo name n.arrivals)) := by
  let m := n.takeRain day
  have hm : m.Sound := hn.toSound.takeRain hall
  have hmr : m.rivers.get? name = some (r.takeRain day) := get?_rivers_takeRain hr
  have hregulated : (m.settlement rule day m.nothingReleased).Regulated rule day m n.arrivals :=
    regulated_settlement hrule hm (hwf.of_plan_eq plan_takeRain) (hall.of_plan_eq plan_takeRain)
  have hmirror := hregulated.mirror hd hmr
  have hdam := hregulated.dam hd hmr
  have hreleased := hregulated.released hd hmr
  rw [River.rainOn_takeRain] at hmirror hdam hreleased
  rw [if_neg hne] at hmirror
  -- It is not the first day, so what waited has arrived.
  have harrived : m.arrivalsOn rule day = ⟨m.settle rule day m.nothingReleased,
      (m.settlement rule day m.nothingReleased).released,
      (m.settlement rule day m.nothingReleased).events, []⟩ := if_pos hday
  rw [atOutflow, releasedOn, harrived]
  exact ⟨hdam, hmirror, hreleased⟩

/-- What a dam lets go on a day on which something arrives there. It stands within its capacity
afterwards, so nothing spills. -/
theorem AtRest.get?_released_day_of_arrivals (share : Rat) :
    (n.day rule share day).released.get? name
      = some (d.releaseAfter rule (r.rainOn day) (amountsTo name n.arrivals)) := by
  obtain ⟨hdam, hriver, hreleased⟩ := hn.get?_atOutflow hrule hwf hall hday hd hr hne
  have hmid : n.Midday rule day := hn.midday hall
  have hregular : d.Regular := hn.toSound.regular hwf hd
  show (((n.atOutflow rule day).outflowOn share day).network.spilled
    (n.releasedOn rule day)).get? name = _
  rw [get?_spilled_outflowOn hmid.sound.nonneg_volumes hdam hriver (hregular.levelAfter_le _),
    hreleased]

end

/-- What a dam lets go on a day is recorded, so it may be told without asking whether it is. -/
theorem released_dayOf_eq_some (h : s.Underway n) (d : Nat) {name : String}
    (hname : name ∈ n.dams.keys) :
    (n.dayOf s.storm s.share d).released.get? name
      = some (((n.dayOf s.storm s.share d).released.get? name).getD 0) := by
  have hk := h.afterDays (d - 1)
  have hkey : name ∈ (n.dayOf s.storm s.share d).released.keys := by
    rw [dayOf, keys_released_day, keys_dams_of_plan_eq (n.plan_afterDays s.storm s.share (d - 1))]
    exact hname
  obtain ⟨x, hx⟩ := (Table.mem_keys _ _).mp hkey
  rw [hx]
  rfl

/-- From the report it is known what a dam lets go on a day. -/
theorem get?_released_of_report (h : s.Underway n) (hcapacity : n.withoutCapacity = [])
    {flows : List (Connection Rat)} (hperm : flows.Perm n.flows)
    (hreport : (s.run (n.withFlows flows)).2 = (s.run n).2) {name : String}
    (hname : name ∈ n.dams.keys) {d : Nat} (hfirst : 1 ≤ d) (hlast : d ≤ n.lastDay) :
    ((n.withFlows flows).dayOf s.storm s.share d).released.get? name
      = (n.dayOf s.storm s.share d).released.get? name := by
  have h' : s.Underway (n.withFlows flows) := underway_withFlows hperm h
  have hamounts : ∀ m : Network Rat, s.Underway m → name ∈ m.dams.keys → ∀ days : List Nat,
      (days.flatMap fun d => ((m.dayOf s.storm s.share d).released.get? name).toList)
        = days.map fun d => ((m.dayOf s.storm s.share d).released.get? name).getD 0 := by
    intro m hm hmem days
    rw [List.map_eq_flatMap]
    refine List.flatMap_congr fun d _ => ?_
    rw [released_dayOf_eq_some hm d hmem]
    rfl
  rw [Simulation.run_eq h.keys hcapacity, Simulation.run_eq h'.keys hcapacity, Option.some.injEq]
    at hreport
  -- The amounts of the record stand in the order of the days.
  have hreleases := congrArg (fun report => report.releases.get? name) hreport
  obtain ⟨before, hbefore⟩ := (s.releases.mem_keys name).mp (h.keys ▸ hname)
  simp only [Simulation.finish, Simulation.afterDays, Table.get?_mapWithKey, hbefore,
    Option.map_some, Option.some.injEq, List.append_cancel_left_eq] at hreleases
  rw [hamounts n h hname, hamounts (n.withFlows flows) h' hname] at hreleases
  have hd : d ∈ List.range' 1 n.lastDay := by
    rw [List.mem_range'_1]
    omega
  rw [released_dayOf_eq_some h d hname, released_dayOf_eq_some h' d hname]
  exact congrArg some (List.map_inj_left.mp hreleases d hd)

/-- Anything that comes to a name can come in first: the connection that brings it is put in
front. -/
theorem exists_amountsTo_eq_cons {name : String} {w : Rat} (f : Connection Rat → Connection Rat)
    {flows : List (Connection Rat)}
    (hw : w ∈ amountsTo name ((flows.map f).flatMap (·.waiting.entries))) :
    ∃ flows' : List (Connection Rat), flows'.Perm flows ∧
      ∃ rest, amountsTo name ((flows'.map f).flatMap (·.waiting.entries)) = w :: rest := by
  obtain ⟨fc, hfc, hmem⟩ := List.mem_flatMap.mp (mem_amountsTo.mp hw)
  obtain ⟨c, hc, rfl⟩ := List.mem_map.mp hfc
  obtain ⟨left, right, rfl⟩ := List.append_of_mem hc
  have hfront : amountsTo name (f c).waiting.entries = [w] :=
    amountsTo_entries ((Table.mem_entries _ _ _).mp hmem)
  refine ⟨c :: (left ++ right), List.perm_middle.symm,
    amountsTo name (((left ++ right).map f).flatMap (·.waiting.entries)), ?_⟩
  rw [List.map_cons, List.flatMap_cons, amountsTo_append, hfront, List.singleton_append]

/-- The order matters on no day if it does not matter for the report. The induction is on the
days: on the first day on which the order matters, some amount that comes to a dam leads to
another level if it comes in first, and the connection that brings it can be put in front. -/
theorem orderFree_of_report (hrule : s.storm.Admissible) (h : s.Underway n)
    (hcapacity : n.withoutCapacity = [])
    (hreport : ∀ flows, flows.Perm n.flows → (s.run (n.withFlows flows)).2 = (s.run n).2)
    (d : Nat) (hfirst : 1 < d) (hlast : d ≤ n.lastDay) :
    (n.afterDays s.storm s.share (d - 1)).OrderFree s.storm d := by
  induction d using Nat.strong_induction_on with
  | _ d ih =>
  obtain ⟨f, hflows, hnetwork⟩ := afterDays_withFlows hrule h (d - 1) fun e he hed =>
    ih e (by omega) he (by omega)
  have hk := h.afterDays (d - 1)
  have hday : 1 < (d : Int) := by omega
  intro name dam r hdam hr _
  let m := n.afterDays s.storm s.share (d - 1)
  have hname : name ∈ n.dams.keys :=
    keys_dams_of_plan_eq (n.plan_afterDays s.storm s.share (d - 1)) ▸
      (Table.mem_keys _ _).mpr ⟨dam, hdam⟩
  -- Any amount leads to the level that the amount leads to which does come in first.
  have hsame : ∀ w ∈ amountsTo name m.arrivals,
      dam.levelIfFirst s.storm (r.rainOn d) (amountsTo name m.arrivals).sum w
        = dam.levelAfter s.storm (r.rainOn d) (amountsTo name m.arrivals) := by
    intro w hw
    have hne : amountsTo name m.arrivals ≠ [] := List.ne_nil_of_mem hw
    rw [arrivals, hflows] at hw
    obtain ⟨flows, hperm, rest, hfront⟩ := exists_amountsTo_eq_cons f hw
    have hperm' : (flows.map f).Perm m.flows := hflows ▸ hperm.map f
    have hfront' : amountsTo name (m.withFlows (flows.map f)).arrivals = w :: rest := hfront
    have hsum : (w :: rest).sum = (amountsTo name m.arrivals).sum := by
      rw [← hfront']
      exact (((arrivals_withFlows hperm').filter _).map _).sum_eq
    -- The dam lets go the same on day `d` of both runs.
    have hreleased : ((n.withFlows flows).dayOf s.storm s.share d).released.get? name
        = (n.dayOf s.storm s.share d).released.get? name :=
      get?_released_of_report h hcapacity hperm (hreport flows hperm) hname hfirst.le hlast
    rw [dayOf, dayOf, hnetwork hperm,
      (hk.atRest.withFlows hperm').get?_released_day_of_arrivals hrule
        (hk.wellFormed.withFlows hperm') hk.all.withFlows hday hdam hr
        (hfront' ▸ List.cons_ne_nil _ _),
      hk.atRest.get?_released_day_of_arrivals hrule hk.wellFormed hk.all hday hdam hr hne,
      hfront', Option.some.injEq, Dam.releaseAfter, Dam.releaseAfter,
      if_neg (List.cons_ne_nil _ _), if_neg hne, hsum, sub_right_inj, Dam.levelAfter, hsum]
      at hreleased
    exact hreleased
  intro x hx y hy
  exact (hsame x hx).trans (hsame y hy).symm

/-! ### A declared network -/

/-- Two rivers that feed a dam on a day on which heavy rain falls there. -/
def stormText : String :=
  "River a = [0, 0, 20]mm; River b = [0, 0, 2]mm; Capacity a = 100ML; Capacity b = 100ML;" ++
    "Dam d = 100ML release 10%; d = 20mm; Flow f = a -> d; Flow g = b -> d;"

/-- The dam ends at 34/5 if what comes from the first river, by far the most, comes in first. With
the connections the other way round it fills up again after the extra release and ends at 10. -/
theorem report_stormText_ne :
    ∃ n : Network Rat, ofText? stormText = some n ∧
      ((Simulation.start .default (9 / 10) (n.withFlows n.flows.reverse)).run
          (n.withFlows n.flows.reverse)).2
        ≠ ((Simulation.start .default (9 / 10) n).run n).2 := by
  have hdeclared : (ofText? stormText).map (fun n : Network Rat =>
      (((Simulation.start .default (9 / 10) (n.withFlows n.flows.reverse)).run
          (n.withFlows n.flows.reverse)).2.map (·.damLevels.get? "d"),
        ((Simulation.start .default (9 / 10) n).run n).2.map (·.damLevels.get? "d")))
      = some (some (some 10), some (some (34 / 5))) := by
    decide +kernel
  obtain ⟨n, hn, hlevels⟩ := Option.map_eq_some_iff.mp hdeclared
  obtain ⟨hbehind, hfront⟩ := Prod.mk.inj hlevels
  refine ⟨n, hn, fun hreport => ?_⟩
  rw [hreport, hfront] at hbehind
  norm_num at hbehind

/-- The settings that hold by default make sense for a dam. -/
theorem admissible_default : (Settings.default : Settings Rat).storm.Admissible :=
  ⟨by decide, by decide⟩

/-- The order of the connections of a declared network never matters for the report exactly if on
no day of the run a dam meets heavy rain and comes to another level if something else comes in
first. -/
theorem order_is_free_iff {text : String} (h : ofText? text = some n) (settings : Settings Rat)
    (hrule : settings.storm.Admissible) (share : Rat) :
    (∀ flows, flows.Perm n.flows →
      ((Simulation.start settings share (n.withFlows flows)).run (n.withFlows flows)).2
        = ((Simulation.start settings share n).run n).2) ↔
    (n.withoutCapacity = [] → ∀ d : Nat, 1 < d → d ≤ n.lastDay →
      (n.afterDays settings.storm share (d - 1)).OrderFree settings.storm d) := by
  have hunderway : (Simulation.start settings share n).Underway n :=
    Simulation.underway_start settings share (fresh_of_text h)
  constructor
  · intro hreport hcapacity d hfirst hlast
    exact orderFree_of_report hrule hunderway hcapacity hreport d hfirst hlast
  · intro hfree flows hperm
    exact report_withFlows hrule hunderway hfree hperm

/-- There is such a day if two rivers feed a dam while heavy rain falls there. -/
theorem order_is_free_iff_storm :
    ∃ n : Network Rat, ofText? stormText = some n ∧
      ¬ ∀ d : Nat, 1 < d → d ≤ n.lastDay →
        (n.afterDays Settings.default.storm (9 / 10) (d - 1)).OrderFree
          Settings.default.storm d := by
  obtain ⟨n, hn, hne⟩ := report_stormText_ne
  refine ⟨n, hn, fun hfree => hne ?_⟩
  exact (order_is_free_iff hn .default admissible_default (9 / 10)).mpr (fun _ => hfree)
    n.flows.reverse (List.reverse_perm _)

/-- So the report of a declared network may depend on the order of its connections. -/
theorem report_depends_on_order :
    ¬ ∀ {text : String} {n : Network Rat}, ofText? text = some n →
      ∀ settings : Settings Rat, settings.storm.Admissible →
      ∀ share : Rat, 0 < share → share < 1 → ∀ flows, flows.Perm n.flows →
        ((Simulation.start settings share (n.withFlows flows)).run (n.withFlows flows)).2
          = ((Simulation.start settings share n).run n).2 := by
  intro hfree
  obtain ⟨n, hn, hne⟩ := report_stormText_ne
  exact hne (hfree hn .default admissible_default (9 / 10) (by norm_num) (by norm_num)
    n.flows.reverse (List.reverse_perm _))

end Network

end Catchment
