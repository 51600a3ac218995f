import Catchment.Proofs.Simulation

/-!
# `Catchment.Proofs.Safety`: dams stay within bounds

Between any two days a network is at rest. Within a day dams are told to deal with
one arrival after the other, and each time a dam lets go no more than it has and
stays between empty and full. What a dam has is its level before the arrival, and
that is the level it was last told to stand at.

* `lastLevel`: the level a dam was last told to stand at.
* `Event.WithinBounds`, `Bounded`: what is to hold of one event, and of a row of events.
* `bounded_settlement`, `Underway.bounded_step`: the arrivals of a day, and a whole day.
* `Network.water_stays_within_bounds`: the network that a text declares, after any days.
-/

set_option autoImplicit false

namespace Catchment

section

variable {α : Type}

/-- The level that a dam is told to stand at by an event, if it is told anything. -/
def Event.levelOf? (dam : String) : Event α → Option α
  | regulated _ name _ _ _ level _ => if name = dam then some level else none
  | started .. | dayBegun _ | rained .. | arrived .. | scheduled .. | finalVolume ..
  | nearCapacity .. | overCapacity .. => none

/-- The level that a dam was last told to stand at, or else the one it had before. -/
def lastLevel (dam : String) (level : α) (events : List (Event α)) : α :=
  ((events.filterMap (Event.levelOf? dam)).getLast?).getD level

variable [Amount α]

/-- A dam that deals with an arrival lets go nothing less than nothing and no more than it has,
and comes to stand between empty and full. -/
def Event.WithinBounds (dams : Table (Dam α)) (before : List (Event α)) : Event α → Prop
  | regulated _ dam inflow rain release level _ =>
    ∃ d, dams.get? dam = some d ∧
      (0 ≤ release ∧ release ≤ lastLevel dam d.level before + inflow + rain) ∧
      0 ≤ level ∧ level ≤ d.capacity
  | started .. | dayBegun _ | rained .. | arrived .. | scheduled .. | finalVolume ..
  | nearCapacity .. | overCapacity .. => True

/-- Every event of a row is within bounds, given the dams before the first of them. -/
def Bounded (dams : Table (Dam α)) (events : List (Event α)) : Prop :=
  ∀ before e after, events = before ++ e :: after → e.WithinBounds dams before

/-- No dam is told anything. -/
def Silent (events : List (Event α)) : Prop := ∀ e ∈ events, ∀ dam, e.levelOf? dam = none

variable {dams : Table (Dam α)} {events further : List (Event α)}

/-- A row without events is within bounds. -/
theorem bounded_nil : Bounded dams ([] : List (Event α)) := by
  intro before e after h
  exact absurd h.symm (List.append_ne_nil_of_right_ne_nil _ (List.cons_ne_nil _ _))

/-- Further events only need to be looked at one by one. -/
theorem Bounded.append (hevents : Bounded dams events)
    (hfurther : ∀ before e after, further = before ++ e :: after →
      e.WithinBounds dams (events ++ before)) : Bounded dams (events ++ further) := by
  intro before e after h
  -- The event is one of the further ones, or one of the old ones.
  rcases List.append_eq_append_iff.mp h with ⟨middle, rfl, hmiddle⟩ | ⟨middle, hmiddle, hrest⟩
  · exact hfurther middle e after hmiddle
  · cases middle with
    | nil =>
      rw [List.append_nil] at hmiddle
      subst hmiddle
      simpa using hfurther [] e after hrest.symm
    | cons e' middle =>
      obtain ⟨rfl, rfl⟩ := List.cons.inj hrest
      exact hevents before e middle hmiddle

omit [Amount α] in
/-- Where no dam is told anything, the last level is the one before. -/
theorem lastLevel_append_of_silent (h : Silent events) (dam : String) (level : α) :
    lastLevel dam level (events ++ further) = lastLevel dam level further := by
  have hnone : events.filterMap (Event.levelOf? dam) = [] :=
    List.filterMap_eq_nil_iff.mpr fun e he => h e he dam
  rw [lastLevel, List.filterMap_append, hnone, List.nil_append, lastLevel]

/-- An event that tells nothing of a dam is within bounds. -/
theorem Silent.withinBounds (h : Silent events) {e : Event α} (he : e ∈ events)
    {before : List (Event α)} : e.WithinBounds dams before := by
  cases e with
  | regulated day dam inflow rain release level percent =>
    have hlevel := h _ he dam
    simp [Event.levelOf?] at hlevel
  | started | dayBegun | rained | arrived | scheduled | finalVolume | nearCapacity
  | overCapacity =>
    trivial

/-- A row within bounds, with one more event that is within bounds behind it, is within bounds. -/
theorem Bounded.concat (hevents : Bounded dams events) {e : Event α}
    (he : e.WithinBounds dams events) : Bounded dams (events ++ [e]) := by
  refine hevents.append fun before e' after h => ?_
  cases before with
  | nil =>
    obtain ⟨rfl, -⟩ := List.cons.inj h
    rwa [List.append_nil]
  | cons _ before =>
    obtain ⟨-, hnil⟩ := List.cons.inj h
    exact absurd hnil.symm (List.append_ne_nil_of_right_ne_nil _ (List.cons_ne_nil _ _))

omit [Amount α] in
/-- The last level is that of the last event, if it tells of the dam. -/
theorem lastLevel_concat (dam : String) (level : α) (events : List (Event α)) (e : Event α) :
    lastLevel dam level (events ++ [e])
      = (e.levelOf? dam).getD (lastLevel dam level events) := by
  unfold lastLevel
  rw [List.filterMap_append]
  cases h : e.levelOf? dam with
  | none => simp [h]
  | some l => simp [h]

/-- What is told of other things before and behind a row does not take it out of bounds. -/
theorem Bounded.between_silent {first last : List (Event α)} (hevents : Bounded dams events)
    (hfirst : Silent first) (hlast : Silent last) : Bounded dams (first ++ events ++ last) := by
  have hbegin : Bounded dams (first ++ events) := by
    refine Bounded.append (fun before e after h => ?_) fun before e after h => ?_
    · exact hfirst.withinBounds (h ▸ List.mem_append_right _ List.mem_cons_self)
    · -- Levels that nothing was told of stand as they did.
      have hbounds := hevents before e after h
      cases e with
      | regulated =>
        simpa only [Event.WithinBounds, lastLevel_append_of_silent hfirst] using hbounds
      | started | dayBegun | rained | arrived | scheduled | finalVolume | nearCapacity
      | overCapacity => trivial
  refine hbegin.append fun before e after h => ?_
  exact hlast.withinBounds (h ▸ List.mem_append_right _ List.mem_cons_self)

/-- Rain tells nothing of dams. -/
theorem silent_rainEvents (day : Int) (n : Network α) : Silent (n.rainEvents day) := by
  intro e he dam
  obtain ⟨river, amount, volume, rfl⟩ := Network.mem_rainEvents he
  rfl

/-- The outflow tells nothing of dams. -/
theorem silent_outflowOn (share : α) (day : Int) (n : Network α) :
    Silent (n.outflowOn share day).events := by
  intro e he dam
  obtain ⟨flow, destination, amount, rfl⟩ := Network.mem_events_outflowOn he
  rfl

end

variable {rule : StormRule Rat} {day : Int} {n : Network Rat}

/-- A dam is as it was before the arrivals, but for its level. -/
theorem Settlement.Steady.capacity_eq {s : Settlement Rat} (hs : s.Steady day n) {name : String}
    {d : Dam Rat} (hd : s.dams.get? name = some d) :
    ∃ d₀, n.dams.get? name = some d₀ ∧ d₀.capacity = d.capacity := by
  have hdrained : (s.dams.map Dam.drained).get? name = some d.drained := by
    rw [Table.get?_map, hd]
    rfl
  rw [hs.dams, Table.get?_map] at hdrained
  obtain ⟨d₀, hd₀, heq⟩ := Option.map_eq_some_iff.mp hdrained
  exact ⟨d₀, hd₀, (congrArg Dam.capacity heq :)⟩

/-- Every arrival of a day is dealt with within bounds. The levels that are told are the levels
that dams have, and this is what carries the induction. -/
theorem bounded_settlement (rule : StormRule Rat) (hn : n.Sound) (hall : n.All (0 ≤ ·))
    (hahead : n.RainAhead day) :
    Bounded n.dams (n.settlement rule day n.nothingReleased).events := by
  refine (Network.settlement_induction rule (motive := fun _ s =>
    Bounded n.dams s.events ∧ ∀ {name d d₀}, s.dams.get? name = some d →
      n.dams.get? name = some d₀ → d.level = lastLevel name d₀.level s.events)
    hn hahead ⟨bounded_nil, fun {name d d₀} hd hd₀ => ?_⟩ ?_).2.1
  · -- Before the first arrival no level has been told.
    rw [hd] at hd₀
    cases hd₀
    rfl
  · intro done s name amount hs hpos hkey ⟨hbounded, hlevels⟩
    rw [← hs.keys_rivers] at hkey
    obtain ⟨r, hr⟩ := (s.rivers.mem_keys name).mp hkey
    cases hd : s.dams.get? name with
    | none =>
      rw [Settlement.arrive_eq_fillRiver (not_le.mpr hpos) hr hd]
      refine ⟨hbounded.concat trivial, fun {j d d₀} hj hj₀ => ?_⟩
      simp only [Settlement.fillRiver, lastLevel_concat, Event.levelOf?, Option.getD_none]
      exact hlevels hj hj₀
    | some d =>
      rw [Settlement.arrive_eq_fillDam (not_le.mpr hpos) hr hd]
      obtain ⟨d₀, hd₀, hcapacity⟩ := hs.capacity_eq hd
      have hfull : 0 ≤ d.capacity := (hs.level hd).1.trans (hs.level hd).2
      refine ⟨hbounded.concat ⟨d₀, hd₀, ⟨Dam.release_nonneg, ?_⟩, Dam.level_settle_nonneg, ?_⟩,
        fun {j d' d₀'} hj hj₀ => ?_⟩
      · -- The level that was told last is the level that the dam has.
        rw [← hlevels hd hd₀]
        exact Dam.release_le_available hfull (hs.available_nonneg hall hr hd hpos)
      · rw [hcapacity]
        exact Dam.level_settle_le hfull
      · simp only [Settlement.fillDam, Table.get?_insert] at hj
        simp only [Settlement.fillDam, lastLevel_concat, Event.levelOf?]
        by_cases hname : j = name
        · subst hname
          simp only [if_true, Option.some.injEq] at hj
          simp only [if_true, Option.getD_some, ← hj]
        · simp only [if_neg hname] at hj
          simp only [if_neg (Ne.symm hname), Option.getD_none]
          exact hlevels hj hj₀

namespace Simulation

variable {s : Simulation Rat}

/-- The events of a day of a run are within bounds. Only the arrivals tell of dams. -/
theorem Underway.bounded_step (h : s.Underway n) (day : Int) :
    Bounded n.dams (s.step n day).events := by
  have hsound : (n.takeRain day).Sound := h.atRest.toSound.takeRain h.all
  have harrivals : Bounded n.dams ((n.takeRain day).arrivalsOn s.storm day).events := by
    unfold Network.arrivalsOn
    split
    · exact bounded_settlement s.storm hsound (h.all.of_plan_eq Network.plan_takeRain)
        (h.atRest.rainAhead h.all)
    · exact bounded_nil
  rw [h.step_eq]
  exact harrivals.between_silent (silent_rainEvents day n) (silent_outflowOn s.share day _)

/-- Nothing less than nothing is recorded as let go. -/
def Recorded (s : Simulation Rat) : Prop :=
  ∀ {name amounts}, s.releases.get? name = some amounts → ∀ x ∈ amounts, 0 ≤ x

/-- A day of a run records nothing less than nothing. -/
theorem Underway.recorded_record (h : s.Underway n) (hs : s.Recorded) (day : Int) :
    (s.record (n.day s.storm s.share day)).Recorded := by
  intro name amounts hamounts x hx
  rw [Simulation.record, Table.get?_mapWithKey] at hamounts
  obtain ⟨before, hbefore, rfl⟩ := Option.map_eq_some_iff.mp hamounts
  rcases List.mem_append.mp hx with hx | hx
  · exact hs hbefore x hx
  · exact h.atRest.released_day_nonneg h.wellFormed h.all (Option.mem_toList.mp hx)

/-- After any days, nothing less than nothing is recorded. -/
theorem Underway.recorded_steps (h : s.Underway n) (hs : s.Recorded) (days : List Int) :
    (s.steps n days).simulation.Recorded := by
  -- The induction is on the days.
  induction days generalizing s n with
  | nil => exact hs
  | cons day rest ih =>
    simp only [Simulation.steps, h.step_eq]
    exact ih (h.record day) (h.recorded_record hs day)

end Simulation

/-- The network that a text declares may be taken through any days, in any order: none of them
fails. Afterwards no river holds less than nothing, some water waits wherever any does, every dam
stands between empty and full and at the level of its river, and nothing less than nothing is
recorded as let go. On one day more, every dam deals with what arrives within its bounds. -/
theorem Network.water_stays_within_bounds {text : String} (h : ofText? text = some n)
    (settings : Settings Rat) (share : Rat) (days : List Int) :
    let reached := (Simulation.start settings share n).steps n days
    reached.error = none ∧ reached.network.AtRest ∧ reached.simulation.Recorded ∧
      ∀ day, Bounded reached.network.dams
        (reached.simulation.step reached.network day).events := by
  have hunderway : (Simulation.start settings share n).Underway n :=
    Simulation.underway_start settings share (fresh_of_text h)
  obtain ⟨herror, hreached, -⟩ := hunderway.steps days
  refine ⟨herror, hreached.atRest, hunderway.recorded_steps ?_ days,
    fun day => hreached.bounded_step day⟩
  -- At the start, the record of every dam is empty.
  intro name amounts hamounts x hx
  simp only [Simulation.start, Table.get?_map, Option.map_eq_some_iff] at hamounts
  obtain ⟨d, -, rfl⟩ := hamounts
  cases hx

/-- A river that feeds a dam, after three days out of order. -/
theorem Network.water_stays_within_bounds_reservoir :
    ∃ n : Network Rat, ofText? reservoirText = some n ∧
      ((Simulation.start .default (9 / 10) n).steps n [2, 1, 4]).network.AtRest := by
  have hdeclared : (ofText? reservoirText : Option (Network Rat)).isSome := by decide +kernel
  obtain ⟨n, hn⟩ := Option.isSome_iff_exists.mp hdeclared
  obtain ⟨-, hrest, -, -⟩ := water_stays_within_bounds hn .default (9 / 10) [2, 1, 4]
  exact ⟨n, hn, hrest⟩

end Catchment
