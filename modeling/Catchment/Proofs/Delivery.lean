import Catchment.Proofs.Simulation

/-!
# `Catchment.Proofs.Delivery`: what leaves on one day arrives on the next

What a connection sends on a day waits in it, one amount for every destination,
and arrives on the next day. Nothing else waits: the connections are empty when the
outflow begins, because all that waited has arrived. So the events of two days in a
row tell the same water twice, once as it leaves and once as it arrives.

* `Event.arrivalsOn`, `Event.scheduledOn`: what events tell of a day.
* `gather`: what is sent by a connection, with one amount for every destination.
* `Network.sendings`: what every connection sends on a day of a run.
* `entries_waiting_send`: what waits in an empty connection after it has got something.
* `arrivals_afterDays`: what waits after a day of a run.
* `Network.sendings_are_delivered`: the run of a network that a text declares.
-/

set_option autoImplicit false

namespace Catchment

/-! ### What events tell -/

section

variable {α : Type}

/-- Where water arrives on a day, and how much, if an event tells of that. -/
def Event.arrivalOn? (day : Int) : Event α → Option (String × α)
  | arrived d destination amount _ => if d = day then some (destination, amount) else none
  | regulated d dam inflow _ _ _ _ => if d = day then some (dam, inflow) else none
  | started .. | dayBegun _ | rained .. | scheduled .. | finalVolume .. | nearCapacity ..
  | overCapacity .. => none

/-- By which connection water leaves on a day, where to, and how much, if an event tells of
that. -/
def Event.scheduledOn? (day : Int) : Event α → Option (Option String × String × α)
  | scheduled d flow destination amount =>
    if d = day then some (flow, destination, amount) else none
  | started .. | dayBegun _ | rained .. | arrived .. | regulated .. | finalVolume ..
  | nearCapacity .. | overCapacity .. => none

/-- What arrives on a day, in the order in which it is told. -/
def Event.arrivalsOn (day : Int) (events : List (Event α)) : List (String × α) :=
  events.filterMap (Event.arrivalOn? day)

/-- What leaves on a day, in the order in which it is told. -/
def Event.scheduledOn (day : Int) (events : List (Event α)) : List (Option String × String × α) :=
  events.filterMap (Event.scheduledOn? day)

/-- What arrives on a day, as two rows of events tell it, is told by the first and then by the
second. -/
theorem Event.arrivalsOn_append (day : Int) (xs ys : List (Event α)) :
    arrivalsOn day (xs ++ ys) = arrivalsOn day xs ++ arrivalsOn day ys :=
  List.filterMap_append

/-- What leaves on a day, as two rows of events tell it, is told by the first and then by the
second. -/
theorem Event.scheduledOn_append (day : Int) (xs ys : List (Event α)) :
    scheduledOn day (xs ++ ys) = scheduledOn day xs ++ scheduledOn day ys :=
  List.filterMap_append

/-- What is sent to named destinations, with one amount for each: the names in the order in which
they first come, and with every name the sum of all that is sent there. -/
def gather (sent : List (String × Rat)) : List (String × Rat) :=
  (sent.map (·.1)).eraseDups.map fun name =>
    (name, ((sent.filter fun x => x.1 = name).map (·.2)).sum)

end

/-! ### What waits in a connection -/

namespace Connection

section

variable {α : Type} [Amount α]

/-- What is sent to every destination of a connection when an amount leaves by it. -/
def portions (c : Connection α) (amount : α) : List (String × α) :=
  c.destinations.map fun name => (name, c.portion amount)

/-- The names under which something waits come in the order of the destinations. -/
private theorem keys_foldl_insert (names : List String) (portion : α) :
    (names.foldl (fun w k => w.insert k ((w.get? k).getD 0 + portion)) (∅ : Table α)).keys
      = names.eraseDups := by
  -- The induction is on the destinations, from the last.
  induction names using List.reverseRecOn with
  | nil => rfl
  | append_singleton names k ih =>
    have hmem : k ∈ names.eraseDups ↔ k ∈ names := List.mem_eraseDups
    rw [List.foldl_append, List.foldl_cons, List.foldl_nil, Table.keys_insert, ih,
      List.eraseDups_append]
    by_cases hk : k ∈ names
    · simp [hmem, hk, List.removeAll]
    · simp [hmem, hk, List.removeAll, List.eraseDups_cons]

end

variable {c : Connection Rat} {amount : Rat}

/-- What waits in an empty connection after it has got something is what it sends, gathered by
destination. -/
theorem entries_waiting_send (hc : c.waiting = ∅) (amount : Rat) :
    (c.send amount).waiting.entries = gather (c.portions amount) := by
  have hkeys : (c.send amount).waiting.keys = c.destinations.eraseDups := by
    rw [send, hc]
    exact keys_foldl_insert _ _
  have hnames : (c.portions amount).map (·.1) = c.destinations := by
    rw [portions, List.map_map]
    exact List.map_id _
  rw [gather, hnames, ← hkeys]
  refine Table.entries_eq_map_keys _ fun name hname => ?_
  rw [hkeys, List.mem_eraseDups] at hname
  rw [get?_waiting_send, if_pos hname, hc]
  -- A destination gets its portion as often as it is named.
  have hsum : ∀ names : List String,
      (((names.map fun k => (k, c.portion amount)).filter fun x => x.1 = name).map (·.2)).sum
        = names.count name * c.portion amount := by
    intro names
    induction names with
    | nil => simp
    | cons k ks ih =>
      by_cases hk : k = name
      · subst hk
        simp [ih]
        ring
      · simp [hk, ih]
  rw [portions, hsum, Table.get?_empty, Option.getD_none, zero_add]

end Connection

/-! ### What is sent on a day -/

namespace Network

section

variable {α : Type} [Amount α]

/-- What a connection sends in the outflow of a day, one amount for every time a destination is
named. -/
def sending (share : α) (n : Network α) (c : Connection α) : List (String × α) :=
  match n.sent? share c with
  | some amount => c.portions amount
  | none => []

/-- What every connection sends on a day of a run, with the name of the connection. -/
def sendings (rule : StormRule α) (share : α) (n : Network α) (d : Nat) :
    List (Option String × List (String × α)) :=
  let m := (n.afterDays rule share (d - 1)).atOutflow rule d
  m.flows.map fun c => (c.name, if d ≤ n.outflowDays then m.sending share c else [])

/-- The arrivals of a day leave the number of days of outflow as it is. -/
theorem outflowDays_arrivalsOn (rule : StormRule α) (day : Int) (n : Network α) :
    (n.arrivalsOn rule day).network.outflowDays = n.outflowDays :=
  outflowDays_of_plan_eq plan_arrivalsOn

/-- The number of days of outflow never changes. -/
theorem outflowDays_afterDays (rule : StormRule α) (share : α) (n : Network α) (k : Nat) :
    (n.afterDays rule share k).outflowDays = n.outflowDays :=
  outflowDays_of_plan_eq (n.plan_afterDays rule share k)

/-- Nothing waits in any connection when the outflow of a day of a run begins. -/
theorem waiting_atOutflow (rule : StormRule α) (share : α) {n : Network α} (hn : n.plan = n)
    (k : Nat) :
    ∀ c ∈ ((n.afterDays rule share k).atOutflow rule (k + 1 : Nat)).flows, c.waiting = ∅ := by
  intro c hc
  unfold atOutflow arrivalsOn at hc
  cases k with
  | zero =>
    -- On the first day nothing has been sent yet.
    rw [if_neg (by decide)] at hc
    exact waiting_eq_empty_of_plan_eq hn hc
  | succ k =>
    -- On any later day, all that waited has arrived.
    rw [if_pos (by omega)] at hc
    obtain ⟨c', -, rfl⟩ := List.mem_map.mp hc
    rfl

end

variable {rule : StormRule Rat} {share : Rat} {n : Network Rat}

/-- In an empty connection that is carried along, what is sent waits, gathered by its
destinations. -/
theorem entries_waiting_carry {c : Connection Rat} (hc : c.waiting = ∅) :
    (n.carry share c).waiting.entries = gather (n.sending share c) := by
  unfold carry sending
  cases n.sent? share c with
  | none =>
    rw [hc]
    rfl
  | some amount => exact Connection.entries_waiting_send hc amount

/-- Gathering what a connection sends by its destinations keeps the sum. -/
theorem Sound.sum_gather_sending (hn : n.Sound) {c : Connection Rat} (hc : c.waiting = ∅) :
    ((gather (n.sending share c)).map (·.2)).sum = ((n.sending share c).map (·.2)).sum := by
  -- Both are what leaves by the connection: it waits there, and it is made up of the portions.
  have hcarried : ((gather (n.sending share c)).map (·.2)).sum = (n.sent? share c).getD 0 := by
    have hweigh : (n.carry share c).waiting.weigh (fun _ x => x)
        = c.waiting.weigh (fun _ x => x) + (n.sent? share c).getD 0 := hn.weigh_waiting_carry c
    rw [hc, Table.weigh_empty, zero_add] at hweigh
    rw [← hweigh, ← entries_waiting_carry hc]
    rfl
  rw [hcarried, sending]
  cases hsent : n.sent? share c with
  | none => rfl
  | some amount =>
    have hlength : (c.destinations.length : Rat) ≠ 0 :=
      Nat.cast_ne_zero.mpr (List.length_pos_iff.mpr (hn.sent_pos hsent).2).ne'
    simp only [Option.getD_some, Connection.portions, List.map_map, Function.comp_def,
      List.map_const', List.sum_replicate, nsmul_eq_mul, Connection.portion]
    exact (mul_div_cancel₀ amount hlength).symm

/-- What waits after a day of a run is what was sent on it, gathered by connection. -/
theorem arrivals_afterDays (rule : StormRule Rat) (share : Rat) (hn : n.plan = n) (k : Nat) :
    (n.afterDays rule share (k + 1)).arrivals
      = (n.sendings rule share (k + 1)).flatMap fun g => gather g.2 := by
  have hempty := waiting_atOutflow rule share hn k
  have hdays : ((n.afterDays rule share k).atOutflow rule (k + 1 : Nat)).outflowDays
      = n.outflowDays := by
    rw [← outflowDays_afterDays rule share n k]
    exact outflowDays_arrivalsOn rule _ _
  have hflows : (n.afterDays rule share (k + 1)).flows
      = (((n.afterDays rule share k).atOutflow rule (k + 1 : Nat)).outflowOn share
          (k + 1 : Nat)).network.flows := rfl
  rw [arrivals, hflows, sendings, Nat.add_sub_cancel, outflowOn, hdays, List.flatMap_map]
  by_cases hopen : k + 1 ≤ n.outflowDays
  · rw [if_pos (by exact_mod_cast hopen), flows_schedule, List.flatMap_map]
    refine List.flatMap_congr fun c hc => ?_
    rw [if_pos hopen]
    exact entries_waiting_carry (hempty c hc)
  · -- The days of outflow are over, so the connections stay empty.
    rw [if_neg (by exact_mod_cast hopen)]
    refine List.flatMap_congr fun c hc => ?_
    rw [if_neg hopen, hempty c hc]
    rfl

end Network

/-! ### What is told of a day -/

section

variable {α : Type} [Amount α] {events : List (Event α)}

/-- Events that tell neither of water that arrives nor of water that leaves. -/
def Quiet (events : List (Event α)) : Prop :=
  ∀ e ∈ events, ∀ day, e.arrivalOn? day = none ∧ e.scheduledOn? day = none

omit [Amount α] in
/-- Quiet events tell of no water that arrives. -/
theorem Quiet.arrivalsOn_eq (h : Quiet events) (day : Int) : Event.arrivalsOn day events = [] :=
  List.filterMap_eq_nil_iff.mpr fun e he => (h e he day).1

omit [Amount α] in
/-- Quiet events tell of no water that leaves. -/
theorem Quiet.scheduledOn_eq (h : Quiet events) (day : Int) : Event.scheduledOn day events = [] :=
  List.filterMap_eq_nil_iff.mpr fun e he => (h e he day).2

/-- Rain is told by quiet events. -/
theorem quiet_rainEvents (day : Int) (n : Network α) : Quiet (n.rainEvents day) := by
  intro e he day'
  obtain ⟨river, amount, volume, rfl⟩ := Network.mem_rainEvents he
  exact ⟨rfl, rfl⟩

/-- What is told at the end of a run is told by quiet events. -/
theorem quiet_finalEvents (s : Simulation α) (n : Network α) : Quiet (s.finalEvents n) := by
  intro e he day
  obtain ⟨r, -, hr⟩ := List.mem_flatMap.mp he
  rcases List.mem_cons.mp hr with rfl | hr
  · exact ⟨rfl, rfl⟩
  · cases hfinding : n.finding s.limits r with
    | nothing =>
      rw [hfinding] at hr
      cases hr
    | near p | beyond excess =>
      rw [hfinding] at hr
      obtain rfl := List.mem_singleton.mp hr
      exact ⟨rfl, rfl⟩

/-- The outflow of a day tells of no water that arrives. -/
theorem arrivalsOn_outflowOn (share : α) (day : Int) (n : Network α) (d : Int) :
    Event.arrivalsOn d (n.outflowOn share day).events = [] := by
  refine List.filterMap_eq_nil_iff.mpr fun e he => ?_
  obtain ⟨flow, destination, amount, rfl⟩ := Network.mem_events_outflowOn he
  rfl

/-- What the outflow tells, connection by connection: what each sends, under its name. -/
theorem scheduleEvents_eq (share : α) (day : Int) (n : Network α) :
    n.scheduleEvents share day = n.flows.flatMap fun c =>
      (n.sending share c).map fun x => .scheduled day c.name x.1 x.2 := by
  refine List.flatMap_congr fun c _ => ?_
  unfold Network.sending Network.sent?
  cases n.given? share (n.grants share) c with
  | none => rfl
  | some amount =>
    show c.sendEvents day amount = (c.portions amount).map _
    rw [Connection.portions, List.map_map]
    rfl

/-- The outflow of a day tells what the connections send on that day, if the days of outflow are
not over. -/
theorem scheduledOn_outflowOn (share : α) (day : Int) (n : Network α) (d : Int) :
    Event.scheduledOn d (n.outflowOn share day).events
      = if d = day ∧ day ≤ n.outflowDays
        then n.flows.flatMap fun c => (n.sending share c).map fun x => (c.name, x) else [] := by
  unfold Network.outflowOn
  by_cases hopen : day ≤ n.outflowDays
  · rw [if_pos hopen]
    show Event.scheduledOn d (n.scheduleEvents share day) = _
    rw [scheduleEvents_eq, Event.scheduledOn, List.filterMap_flatMap]
    simp only [List.filterMap_map]
    by_cases hd : d = day
    · rw [if_pos ⟨hd, hopen⟩]
      simp [Event.scheduledOn?, hd]
    · rw [if_neg fun h => hd h.1]
      simp [Function.comp_def, Event.scheduledOn?, Ne.symm hd]
  · rw [if_neg hopen, if_neg fun h => hopen h.2]
    rfl

end

namespace Network

variable {rule : StormRule Rat} {share : Rat} {n : Network Rat} {day : Int}

/-- Every arrival of a day is told, in order, and no outflow is told meanwhile. -/
theorem events_settlement (rule : StormRule Rat) (hn : n.Sound) (hahead : n.RainAhead day)
    (d : Int) :
    Event.arrivalsOn d (n.settlement rule day n.nothingReleased).events
        = (if d = day then n.arrivals else []) ∧
      Event.scheduledOn d (n.settlement rule day n.nothingReleased).events = [] := by
  refine (settlement_induction rule (motive := fun done s =>
    Event.arrivalsOn d s.events = (if d = day then done else []) ∧
      Event.scheduledOn d s.events = [])
    hn hahead ⟨by split <;> rfl, rfl⟩ ?_).2
  intro done s name amount hs hpos hkey ⟨harrivals, hscheduled⟩
  rw [← hs.keys_rivers] at hkey
  obtain ⟨r, hr⟩ := (s.rivers.mem_keys name).mp hkey
  -- Whatever kind of arrival it is, one event tells of it.
  have hnew : ∀ e : Event Rat, e.arrivalOn? d = (if day = d then some (name, amount) else none) →
      e.scheduledOn? d = none →
      Event.arrivalsOn d (s.events ++ [e]) = (if d = day then done ++ [(name, amount)] else []) ∧
        Event.scheduledOn d (s.events ++ [e]) = [] := by
    intro e he hquiet
    rw [Event.arrivalsOn_append, Event.scheduledOn_append, harrivals, hscheduled]
    by_cases hd : d = day
    · subst hd
      simp [Event.arrivalsOn, Event.scheduledOn, he, hquiet]
    · simp [Event.arrivalsOn, Event.scheduledOn, he, hquiet, hd, Ne.symm hd]
  cases hd : s.dams.get? name with
  | none =>
    rw [Settlement.arrive_eq_fillRiver (not_le.mpr hpos) hr hd]
    exact hnew _ rfl rfl
  | some dam =>
    rw [Settlement.arrive_eq_fillDam (not_le.mpr hpos) hr hd]
    exact hnew _ rfl rfl

/-- What is told to arrive on a day is what waited before it. -/
theorem AtRest.arrivalsOn_day (hn : n.AtRest) (hall : n.All (0 ≤ ·)) (d : Int) :
    Event.arrivalsOn d (n.day rule share day).events
      = if d = day ∧ 1 < day then n.arrivals else [] := by
  have hsound : (n.takeRain day).Sound := hn.toSound.takeRain hall
  have hahead : (n.takeRain day).RainAhead day := hn.rainAhead hall
  show Event.arrivalsOn d (n.rainEvents day ++ ((n.takeRain day).arrivalsOn rule day).events
    ++ ((n.atOutflow rule day).outflowOn share day).events) = _
  rw [Event.arrivalsOn_append, Event.arrivalsOn_append, (quiet_rainEvents day n).arrivalsOn_eq,
    arrivalsOn_outflowOn, List.nil_append, List.append_nil]
  unfold arrivalsOn
  by_cases hfirst : 1 < day
  · rw [if_pos hfirst]
    simp only [hfirst, and_true]
    exact (events_settlement rule hsound hahead d).1
  · rw [if_neg hfirst, if_neg fun h => hfirst h.2]
    rfl

/-- What is told to leave on a day is what the connections send. -/
theorem AtRest.scheduledOn_day (hn : n.AtRest) (hall : n.All (0 ≤ ·)) (d : Int) :
    Event.scheduledOn d (n.day rule share day).events
      = if d = day ∧ day ≤ n.outflowDays
        then (n.atOutflow rule day).flows.flatMap fun c =>
          ((n.atOutflow rule day).sending share c).map fun x => (c.name, x) else [] := by
  have hdays : (n.atOutflow rule day).outflowDays = n.outflowDays :=
    outflowDays_arrivalsOn rule day (n.takeRain day)
  have hsound : (n.takeRain day).Sound := hn.toSound.takeRain hall
  have hahead : (n.takeRain day).RainAhead day := hn.rainAhead hall
  have harrivals : Event.scheduledOn d ((n.takeRain day).arrivalsOn rule day).events = [] := by
    unfold arrivalsOn
    split
    · exact (events_settlement rule hsound hahead d).2
    · rfl
  show Event.scheduledOn d (n.rainEvents day ++ ((n.takeRain day).arrivalsOn rule day).events
    ++ ((n.atOutflow rule day).outflowOn share day).events) = _
  rw [Event.scheduledOn_append, Event.scheduledOn_append,
    (quiet_rainEvents day n).scheduledOn_eq, harrivals, scheduledOn_outflowOn, hdays]
  rfl

end Network

/-! ### What is told of a run -/

/-- What the days of a row tell of one of them, where every day tells of itself only. -/
private theorem flatMap_range'_eq {β : Type} (f : Nat → List β) (d k : Nat) :
    ((List.range' 1 k).flatMap fun (j : Nat) => if (d : Int) = j then f j else [])
      = if 1 ≤ d ∧ d ≤ k then f d else [] := by
  -- The induction is on the days, from the last.
  induction k with
  | zero => simp; omega
  | succ k ih =>
    rw [List.range'_1_concat, List.flatMap_append, ih]
    by_cases hlast : d = k + 1
    · subst hlast
      simp [Nat.add_comm]
    · have hne : ¬((d : Int) = (1 + k : Nat)) := by omega
      have hiff : (1 ≤ d ∧ d ≤ k + 1) ↔ (1 ≤ d ∧ d ≤ k) := by omega
      simp only [List.flatMap_cons, List.flatMap_nil, if_neg hne, List.append_nil, hiff]

namespace Simulation

variable {s : Simulation Rat} {n : Network Rat}

/-- What the events of a run tell of a day is what the days tell of it. -/
theorem Underway.told_run (h : s.Underway n) (hcapacity : n.withoutCapacity = []) (d : Int) :
    Event.arrivalsOn d (s.run n).1.events
        = ((List.range' 1 n.lastDay).flatMap fun k =>
            Event.arrivalsOn d (n.dayOf s.storm s.share k).events) ∧
      Event.scheduledOn d (s.run n).1.events
        = (List.range' 1 n.lastDay).flatMap fun k =>
            Event.scheduledOn d (n.dayOf s.storm s.share k).events := by
  -- What is told before the first day and after the last is not about water that moves.
  have hquiet := quiet_finalEvents s (n.afterDays s.storm s.share n.lastDay)
  rw [run_eq h.keys hcapacity]
  constructor
  · rw [Event.arrivalsOn_append, hquiet.arrivalsOn_eq, List.append_nil, Event.arrivalsOn,
      List.filterMap_cons_none rfl, List.filterMap_flatMap]
    exact List.flatMap_congr fun k _ => List.filterMap_cons_none rfl
  · rw [Event.scheduledOn_append, hquiet.scheduledOn_eq, List.append_nil, Event.scheduledOn,
      List.filterMap_cons_none rfl, List.filterMap_flatMap]
    exact List.flatMap_congr fun k _ => List.filterMap_cons_none rfl

/-- What a day of a run tells to arrive is what waited in the connections after the day before. On
the first day nothing arrives. -/
theorem Underway.arrivalsOn_dayOf (h : s.Underway n) (k : Nat) (d : Int) :
    Event.arrivalsOn d (n.dayOf s.storm s.share k).events
      = if d = k then
          if 1 < k then (n.afterDays s.storm s.share (k - 1)).arrivals else []
        else [] := by
  have hk := h.afterDays (k - 1)
  rw [Network.dayOf, hk.atRest.arrivalsOn_day hk.all, ite_and]
  simp only [Nat.one_lt_cast]

/-- What a day of a run tells to leave is what the connections send on that day. -/
theorem Underway.scheduledOn_dayOf (h : s.Underway n) (k : Nat) (d : Int) :
    Event.scheduledOn d (n.dayOf s.storm s.share k).events
      = if d = k then
          (n.sendings s.storm s.share k).flatMap fun g => g.2.map fun x => (g.1, x)
        else [] := by
  have hk := h.afterDays (k - 1)
  rw [Network.dayOf, hk.atRest.scheduledOn_day hk.all, ite_and, Network.outflowDays_afterDays,
    Network.sendings, List.flatMap_map]
  simp only [Nat.cast_le]
  by_cases hopen : k ≤ n.outflowDays
  · simp only [if_pos hopen]
  · simp [if_neg hopen]

variable (h : s.Underway n) (hplan : n.plan = n) (hcapacity : n.withoutCapacity = [])

include h hcapacity

/-- What is told to leave on a day of a run is what the connections send on it. -/
theorem Underway.scheduledOn_run {d : Nat} (hfirst : 1 ≤ d) (hlast : d ≤ n.lastDay) :
    Event.scheduledOn d (s.run n).1.events
      = (n.sendings s.storm s.share d).flatMap fun g => g.2.map fun x => (g.1, x) := by
  rw [(h.told_run hcapacity d).2]
  simp only [h.scheduledOn_dayOf]
  rw [flatMap_range'_eq (fun k => (n.sendings s.storm s.share k).flatMap fun g =>
    g.2.map fun x => (g.1, x)), if_pos ⟨hfirst, hlast⟩]

include hplan

/-- What is told to arrive on the day after is what the connections sent, gathered. -/
theorem Underway.arrivalsOn_run {d : Nat} (hfirst : 1 ≤ d) (hlast : d < n.lastDay) :
    Event.arrivalsOn (d + 1 : Nat) (s.run n).1.events
      = (n.sendings s.storm s.share d).flatMap fun g => gather g.2 := by
  obtain ⟨k, rfl⟩ : ∃ k, d = k + 1 := ⟨d - 1, by omega⟩
  rw [(h.told_run hcapacity _).1, ← n.arrivals_afterDays s.storm s.share hplan k]
  simp only [h.arrivalsOn_dayOf]
  rw [flatMap_range'_eq (fun k => if 1 < k then (n.afterDays s.storm s.share (k - 1)).arrivals
    else []), if_pos ⟨by omega, by omega⟩, if_pos (by omega)]
  rfl

/-- Nothing is told to arrive on the first day, or later than a day after the last outflow. -/
theorem Underway.arrivalsOn_run_eq_nil {day : Int} (hday : day ≤ 1 ∨ n.outflowDays + 1 < day) :
    Event.arrivalsOn day (s.run n).1.events = [] := by
  rw [(h.told_run hcapacity day).1]
  refine List.flatMap_eq_nil_iff.mpr fun k _ => ?_
  rw [h.arrivalsOn_dayOf]
  split
  · rename_i hk
    split
    · rename_i hlate
      obtain ⟨j, rfl⟩ : ∃ j, k = j + 2 := ⟨k - 2, by omega⟩
      show (n.afterDays s.storm s.share (j + 1)).arrivals = []
      rw [n.arrivals_afterDays s.storm s.share hplan j]
      -- The outflow was over on the day before.
      refine List.flatMap_eq_nil_iff.mpr fun g hg => ?_
      obtain ⟨c, -, rfl⟩ := List.mem_map.mp hg
      have hover : ¬j + 1 ≤ n.outflowDays := by omega
      rw [if_neg hover]
      rfl
    · rfl
  · rfl

end Simulation

namespace Network

variable {n : Network Rat}

/-- What is under way after a day of a run is what was sent on it. -/
theorem inTransit_afterDays {s : Simulation Rat} (h : s.Underway n) (hplan : n.plan = n) {d : Nat}
    (hfirst : 1 ≤ d) :
    (n.afterDays s.storm s.share d).inTransit
      = (((n.sendings s.storm s.share d).flatMap fun g => g.2.map fun x => (g.1, x)).map
          fun x => x.2.2).sum := by
  obtain ⟨k, rfl⟩ : ∃ k, d = k + 1 := ⟨d - 1, by omega⟩
  have hk := h.afterDays k
  have hmid : (n.afterDays s.storm s.share k).Midday s.storm (k + 1 : Nat) :=
    hk.atRest.midday hk.all
  have hempty := waiting_atOutflow s.storm s.share hplan k
  rw [inTransit_eq_sum, arrivals_afterDays s.storm s.share hplan, sum_map_flatMap,
    sum_map_flatMap]
  refine congrArg List.sum (List.map_congr_left fun g hg => ?_)
  obtain ⟨c, hc, rfl⟩ := List.mem_map.mp hg
  rw [List.map_map]
  show _ = (List.map (fun x : String × Rat => x.2) _).sum
  split
  · exact hmid.sound.sum_gather_sending (hempty c hc)
  · rfl

/-- The connections send in the order of their declaration, each to its destinations. -/
theorem sendings_flows {s : Simulation Rat} (h : s.Underway n) (hplan : n.plan = n) (d : Nat) :
    List.Forall₂ (fun c g => g.1 = c.name ∧ (g.2 = [] ∨ g.2.map (·.1) = c.destinations))
      n.flows (n.sendings s.storm s.share d) := by
  let m := (n.afterDays s.storm s.share (d - 1)).atOutflow s.storm d
  have hk := h.afterDays (d - 1)
  have hmid : (n.afterDays s.storm s.share (d - 1)).Midday s.storm d := hk.atRest.midday hk.all
  -- A day does not change what connections there are.
  have hflows : n.flows = m.flows.map Connection.idle := by
    rw [← hplan, ← n.plan_afterDays s.storm s.share (d - 1), ← hmid.plan]
    rfl
  show List.Forall₂ _ n.flows (m.flows.map _)
  rw [hflows, List.forall₂_map_left_iff, List.forall₂_map_right_iff, List.forall₂_same]
  intro c _
  refine ⟨rfl, ?_⟩
  split
  · unfold sending
    split
    · right
      rw [Connection.portions, List.map_map]
      exact List.map_id _
    · exact Or.inl rfl
  · exact Or.inl rfl

/-- In a run of a network that a text declares, the connections send on every day of outflow, in
the order of their declaration and each to its destinations, and this is what is told to leave. It
is told to arrive on the day after, with one arrival for every connection and destination, and
nothing else is told to arrive. What is under way at the end is what was sent on the last day. -/
theorem sendings_are_delivered {text : String} (h : ofText? text = some n)
    (settings : Settings Rat) (share : Rat) {report : RunReport Rat}
    (hreport : ((Simulation.start settings share n).run n).2 = some report) :
    let events := ((Simulation.start settings share n).run n).1.events
    let sent := n.sendings settings.storm share
    (∀ d, List.Forall₂ (fun c g => g.1 = c.name ∧ (g.2 = [] ∨ g.2.map (·.1) = c.destinations))
      n.flows (sent d)) ∧
    (∀ d : Nat, 1 ≤ d → d ≤ n.lastDay →
      Event.scheduledOn d events = (sent d).flatMap fun g => g.2.map fun x => (g.1, x)) ∧
    (∀ d : Nat, 1 ≤ d → d < n.lastDay →
      Event.arrivalsOn (d + 1 : Nat) events = (sent d).flatMap fun g => gather g.2) ∧
    (∀ day : Int, day ≤ 1 ∨ n.outflowDays + 1 < day → Event.arrivalsOn day events = []) ∧
    report.inTransit = ((Event.scheduledOn n.lastDay events).map fun x => x.2.2).sum ∧
    (n.outflowDays < n.lastDay → report.inTransit = 0) := by
  have hfresh : n.Fresh (0 ≤ ·) := fresh_of_text h
  have hunderway : (Simulation.start settings share n).Underway n :=
    Simulation.underway_start settings share hfresh
  -- There is a report, so the run was not stopped before its first day.
  have hcapacity : n.withoutCapacity = [] := Simulation.withoutCapacity_of_report hreport
  have hlast : 1 ≤ n.lastDay :=
    (show 1 ≤ n.outflowDays from (by decide : 1 ≤ shortestOutflow).trans
      hfresh.wellFormed.outflowDays).trans (le_max_left _ _)
  have hinTransit : report.inTransit
      = (n.afterDays settings.storm share n.lastDay).inTransit := by
    rw [Simulation.run_eq hunderway.keys hcapacity] at hreport
    cases hreport
    rfl
  refine ⟨fun d => sendings_flows hunderway hfresh.plan_eq d,
    fun d hfirst hd => hunderway.scheduledOn_run hcapacity hfirst hd,
    fun d hfirst hd => hunderway.arrivalsOn_run hfresh.plan_eq hcapacity hfirst hd,
    fun day hday => hunderway.arrivalsOn_run_eq_nil hfresh.plan_eq hcapacity hday, ?_,
    fun hover => ?_⟩
  · rw [hunderway.scheduledOn_run hcapacity hlast (le_refl _), hinTransit]
    exact inTransit_afterDays hunderway hfresh.plan_eq hlast
  · rw [hinTransit]
    refine (inTransit_afterDays hunderway hfresh.plan_eq hlast).trans ?_
    -- After the days of outflow nothing is sent.
    rw [List.flatMap_eq_nil_iff.mpr fun g hg => ?_]
    · rfl
    · obtain ⟨c, -, rfl⟩ := List.mem_map.mp hg
      rw [if_neg (not_le.mpr hover)]
      rfl

/-- A river that sends nine tenths of its 30 to a dam, where they arrive on the second day. -/
theorem sendings_are_delivered_reservoir :
    ∃ n : Network Rat, ofText? reservoirText = some n ∧
      ((Simulation.start .default (9 / 10) n).run n).2.isSome ∧
      Event.arrivalsOn 2 ((Simulation.start .default (9 / 10) n).run n).1.events
        = [("d", 27)] := by
  have hdeclared : (ofText? reservoirText).map (fun n : Network Rat =>
      (((Simulation.start .default (9 / 10) n).run n).2.isSome,
        decide (1 < n.lastDay), (n.sendings Settings.default.storm (9 / 10) 1).flatMap fun g =>
          gather g.2)) = some (true, true, [("d", 27)]) := by
    decide +kernel
  obtain ⟨n, hn, hfacts⟩ := Option.map_eq_some_iff.mp hdeclared
  obtain ⟨hends, hfacts⟩ := Prod.mk.inj hfacts
  obtain ⟨hlast, hsent⟩ := Prod.mk.inj hfacts
  obtain ⟨report, hreport⟩ := Option.isSome_iff_exists.mp hends
  obtain ⟨-, -, harrivals, -⟩ := sendings_are_delivered hn .default (9 / 10) hreport
  exact ⟨n, hn, hends, (harrivals 1 (le_refl 1) (of_decide_eq_true hlast)).trans hsent⟩

end Network

end Catchment
