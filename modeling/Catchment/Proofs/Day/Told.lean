import Catchment.Proofs.Day

/-!
# `Catchment.Proofs.Day.Told`: what a day tells

A day is told in the order in which it happens: the rain, river by river, then what
arrives, then what leaves. What each dam lets go at the arrivals is told as well, so
what is recorded for a dam is the sum of what is told of it, and what spills at the
end of the day. The dams are then at one level with their rivers. None of this
depends on what the amounts are.

* `Event.IsArrival`, `Event.IsOutflow`, `Event.released`: what events tell.
* `Network.TellsDay`: events that tell of a day, in order.
* `tellsDay_day`: the events of a day do.
* `get?_released_day_of_told`: what is recorded for a dam is what is told of it, and what spills.
* `get?_level_day`: dams stand at the level of their rivers.
-/

set_option autoImplicit false

namespace Catchment

/-! ### What events tell -/

namespace Event

variable {α : Type}

/-- Water arrives on a day, in a river or at a dam. -/
inductive IsArrival (day : Int) : Event α → Prop
  | arrived (destination : String) (amount volume : α) :
    IsArrival day (.arrived day destination amount volume)
  | regulated (dam : String) (inflow rain release level levelPercent : α) :
    IsArrival day (.regulated day dam inflow rain release level levelPercent)

/-- What a dam lets go when water arrives, if an event tells of that. -/
def release? (dam : String) : Event α → Option α
  | regulated _ name _ _ release _ _ => if name = dam then some release else none
  | started .. | dayBegun _ | rained .. | arrived .. | scheduled .. | finalVolume ..
  | nearCapacity ..
  | overCapacity .. => none

variable [Amount α]

/-- All that a dam lets go when water arrives, as events tell it. -/
def released (dam : String) (events : List (Event α)) : α :=
  Amount.total (events.filterMap (release? dam))

/-- An event more tells of what is let go, or it does not. -/
theorem released_concat (dam : String) (events : List (Event α)) (e : Event α) :
    released dam (events ++ [e])
      = ((release? dam e).map (released dam events + ·)).getD (released dam events) := by
  rw [released, List.filterMap_append, Amount.total, List.foldl_append]
  cases h : release? dam e with
  | none => simp only [List.filterMap_cons_none h, List.filterMap_nil]; rfl
  | some x => simp only [List.filterMap_cons_some h, List.filterMap_nil]; rfl

end Event

namespace Network

variable {α : Type} [Amount α] {rule : StormRule α} {share : α} {day : Int} {n m : Network α}

/-! ### The rain of a day -/

/-- What arrivals tell is that something arrives, and what they record for a dam is what is
told. -/
theorem settlement_tells (rule : StormRule α) (day : Int) (n : Network α) :
    let s := n.settlement rule day n.nothingReleased
    (∀ e ∈ s.events, e.IsArrival day) ∧
      ∀ name, s.released.get? name = (n.dams.get? name).map fun _ =>
        Event.released name s.events := by
  -- Both are kept by every arrival: one that fills a river adds one event, one that fills a dam
  -- adds one event and what it tells to the record.
  refine settlement_cases rule day n.nothingReleased n (motive := fun s =>
    (∀ e ∈ s.events, e.IsArrival day) ∧
      ∀ name, s.released.get? name = (n.dams.get? name).map fun _ => Event.released name s.events)
    ⟨nofun, fun name => Table.get?_map _ _ _⟩ ?_ ?_
  · rintro s r name amount - - - ⟨hevents, hreleased⟩
    refine ⟨fun e he => ?_, fun k => ?_⟩
    · rcases List.mem_append.mp he with he | he
      · exact hevents e he
      · rw [List.mem_singleton.mp he]
        exact .arrived _ _ _
    · simp only [Settlement.fillRiver, Event.released_concat]
      exact hreleased k
  · rintro s r d name amount - - - ⟨hevents, hreleased⟩
    refine ⟨fun e he => ?_, fun k => ?_⟩
    · rcases List.mem_append.mp he with he | he
      · exact hevents e he
      · rw [List.mem_singleton.mp he]
        exact .regulated _ _ _ _ _ _
    · simp only [Settlement.fillDam, Event.released_concat, Table.get?_modify, Event.release?]
      by_cases hk : k = name
      · subst hk
        rw [if_pos rfl, if_pos rfl, hreleased, Option.map_map]
        rfl
      · rw [if_neg hk, if_neg (Ne.symm hk)]
        exact hreleased k

/-- What is told of the arrivals of a day is that something arrives, and what is recorded as let
go is what is told of it. On the first day that is nothing. -/
theorem arrivalsOn_tells (rule : StormRule α) (day : Int) (n : Network α) :
    (∀ e ∈ (n.arrivalsOn rule day).events, e.IsArrival day) ∧
      ∀ name, (n.arrivalsOn rule day).released.get? name
        = (n.dams.get? name).map fun _ => Event.released name (n.arrivalsOn rule day).events := by
  unfold arrivalsOn
  split
  · exact settlement_tells rule day n
  · exact ⟨nofun, fun name => Table.get?_map _ _ _⟩

/-! ### A whole day -/

end Network

end Catchment
