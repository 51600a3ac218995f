import Catchment.Proofs.Table
import Catchment.Day.Settlement

/-!
# `Catchment.Proofs.Day.Locality`: what arrives in one place changes nothing in another

The arrivals of a day are a fold over all that waits, for all places at once. Seen from
one name the fold is shorter. An arrival at another name leaves the river, the dam, and
the record of this name alone, and an arrival at this name reads nothing else. So what
the arrivals of a day make of a name is told from the arrivals at this name, in their
order, and from how it stood before.

* `Settlement.SameAt`: two settlements are the same in one place.
* `sameAt_arrive_of_ne`: an arrival changes nothing in another place.
* `SameAt.arrive`: an arrival does the same to settlements that are the same in its place.
* `sameAt_foldl`: only the arrivals in a place count for it.
* `sameAt_settlement_of_none`: where nothing arrives, nothing changes.
* `sameAt_settlement`: networks that are the same in a place, and in what arrives there.
-/

set_option autoImplicit false

namespace Catchment

variable {α : Type}

namespace Event

/-- What comes in at a dam and the rain that counts with it, if an event tells of that. -/
def intake? (dam : String) : Event α → Option (α × α)
  | regulated _ name inflow rain _ _ _ => if name = dam then some (inflow, rain) else none
  | started .. | dayBegun _ | rained .. | arrived .. | scheduled .. | finalVolume ..
  | nearCapacity .. | overCapacity .. => none

/-- What comes in at a dam, in the order in which it is told, with the rain that counts each
time. -/
def intakes (dam : String) (events : List (Event α)) : List (α × α) :=
  events.filterMap (intake? dam)

/-- One more event adds to what comes in at a dam if it tells of that. -/
theorem intakes_concat (dam : String) (events : List (Event α)) (e : Event α) :
    intakes dam (events ++ [e]) = intakes dam events ++ (intake? dam e).toList := by
  unfold intakes
  rw [List.filterMap_append]
  cases h : intake? dam e <;> simp [h]

end Event

namespace Settlement

/-- Two settlements are the same in one place: in its river, in its dam and what that has let go,
in whether the dam has had its rain, and in what has been told of the dam. -/
structure SameAt (name : String) (s t : Settlement α) : Prop where
  river : s.rivers.get? name = t.rivers.get? name
  dam : s.dams.get? name = t.dams.get? name
  released : s.released.get? name = t.released.get? name
  operated : name ∈ s.operated ↔ name ∈ t.operated
  intakes : Event.intakes name s.events = Event.intakes name t.events

/-- A settlement is the same as itself in each place. -/
theorem SameAt.refl (name : String) (s : Settlement α) : SameAt name s s :=
  ⟨rfl, rfl, rfl, Iff.rfl, rfl⟩

/-- Being the same in one place goes both ways. -/
theorem SameAt.symm {name : String} {s t : Settlement α} (h : SameAt name s t) :
    SameAt name t s :=
  ⟨h.river.symm, h.dam.symm, h.released.symm, h.operated.symm, h.intakes.symm⟩

/-- Being the same in one place goes on from one settlement to the next. -/
theorem SameAt.trans {name : String} {s t u : Settlement α} (hst : SameAt name s t)
    (htu : SameAt name t u) : SameAt name s u :=
  ⟨hst.river.trans htu.river, hst.dam.trans htu.dam, hst.released.trans htu.released,
    hst.operated.trans htu.operated, hst.intakes.trans htu.intakes⟩

variable [Amount α] {rule : StormRule α} {day : Int} {name : String} {s t : Settlement α}

/-- An arrival changes nothing in another place. -/
theorem sameAt_arrive_of_ne {arrival : String × α} (hne : arrival.1 ≠ name) (s : Settlement α) :
    SameAt name (s.arrive rule day arrival) s := by
  obtain ⟨k, amount⟩ := arrival
  have hname : name ≠ k := fun h => hne h.symm
  have hk : k ≠ name := hne
  -- The cases are those of an arrival: nothing arrives, or at no river, at a river, at a dam.
  unfold arrive
  simp only
  split
  · exact .refl name s
  · split
    · exact .refl name s
    · refine ⟨?_, rfl, rfl, Iff.rfl, ?_⟩
      · show (s.rivers.modify k _).get? name = _
        rw [Table.get?_modify, if_neg hname]
      · show Event.intakes name (s.events ++ [_]) = _
        rw [Event.intakes_concat, Event.intake?, Option.toList_none, List.append_nil]
    · refine ⟨?_, ?_, ?_, ?_, ?_⟩
      · show (s.rivers.modify k _).get? name = _
        rw [Table.get?_modify, if_neg hname]
      · show (s.dams.insert k _).get? name = _
        rw [Table.get?_insert, if_neg hname]
      · show (s.released.modify k _).get? name = _
        rw [Table.get?_modify, if_neg hname]
      · show name ∈ k :: s.operated ↔ _
        rw [List.mem_cons, or_iff_right hname]
      · show Event.intakes name (s.events ++ [_]) = _
        rw [Event.intakes_concat, Event.intake?, if_neg hk, Option.toList_none, List.append_nil]

/-- An arrival does the same to two settlements that are the same in its place. -/
theorem SameAt.arrive (h : SameAt name s t) (amount : α) :
    SameAt name (s.arrive rule day (name, amount)) (t.arrive rule day (name, amount)) := by
  unfold Settlement.arrive
  simp only [h.river, h.dam]
  split
  · exact h
  · split
    · exact h
    · refine ⟨?_, h.dam, h.released, h.operated, ?_⟩
      · simp only [fillRiver, Table.get?_modify, h.river]
      · simp only [fillRiver, Event.intakes_concat, h.intakes]
    · -- The rain of the day counts in both, or in none of them.
      simp only [fillDam, h.operated]
      refine ⟨?_, ?_, ?_, ?_, ?_⟩
      · simp only [Table.get?_modify, h.river]
      · simp only [Table.get?_insert, h.dam]
      · simp only [Table.get?_modify, h.released]
      · simp only [List.mem_cons, true_or]
      · simp only [Event.intakes_concat, h.intakes]

/-- Only the arrivals in a place count for it. -/
theorem sameAt_foldl (h : SameAt name s t) (arrivals : List (String × α)) :
    SameAt name (arrivals.foldl (Settlement.arrive rule day) s)
      ((arrivals.filter fun a => a.1 = name).foldl (Settlement.arrive rule day) t) := by
  -- The induction is on the arrivals, for any settlements that are the same in this place.
  induction arrivals generalizing s t with
  | nil => exact h
  | cons a rest ih =>
    rw [List.foldl_cons, List.filter_cons]
    by_cases hname : a.1 = name
    · rw [if_pos (decide_eq_true hname), List.foldl_cons]
      subst hname
      exact ih (h.arrive a.2)
    · rw [if_neg (by simpa using hname)]
      exact ih ((sameAt_arrive_of_ne hname s).trans h)

end Settlement

namespace Network

variable [Amount α] {rule : StormRule α} {day : Int} {name : String} {n m : Network α}
  {released released' : Table α}

/-- What the arrivals of a day do in a place is told from how it stood before, and from what
arrives there. -/
theorem sameAt_settlement (hriver : n.rivers.get? name = m.rivers.get? name)
    (hdam : n.dams.get? name = m.dams.get? name)
    (hreleased : released.get? name = released'.get? name)
    (harrivals : (n.arrivals.filter fun a => a.1 = name)
      = m.arrivals.filter fun a => a.1 = name) :
    (n.settlement rule day released).SameAt name (m.settlement rule day released') := by
  have hstart : Settlement.SameAt name
      (⟨n.rivers, n.dams, released, [], []⟩ : Settlement α)
      ⟨m.rivers, m.dams, released', [], []⟩ :=
    ⟨hriver, hdam, hreleased, Iff.rfl, rfl⟩
  have hn : (n.settlement rule day released).SameAt name
      ((m.arrivals.filter fun a => a.1 = name).foldl (Settlement.arrive rule day)
        ⟨n.rivers, n.dams, released, [], []⟩) := by
    rw [← harrivals]
    exact Settlement.sameAt_foldl (.refl name _) n.arrivals
  have hm : (m.settlement rule day released').SameAt name
      ((m.arrivals.filter fun a => a.1 = name).foldl (Settlement.arrive rule day)
        ⟨n.rivers, n.dams, released, [], []⟩) :=
    Settlement.sameAt_foldl hstart.symm m.arrivals
  exact hn.trans hm.symm

/-- Where nothing arrives, nothing changes. -/
theorem sameAt_settlement_of_none (rule : StormRule α) (day : Int) (released : Table α)
    (h : ∀ a ∈ n.arrivals, a.1 ≠ name) :
    (n.settlement rule day released).SameAt name ⟨n.rivers, n.dams, released, [], []⟩ := by
  have hnone : (n.arrivals.filter fun a => a.1 = name) = [] :=
    List.filter_eq_nil_iff.mpr fun a ha hname => h a ha (of_decide_eq_true hname)
  have hfold : (n.settlement rule day released).SameAt name
      ((n.arrivals.filter fun a => a.1 = name).foldl (Settlement.arrive rule day)
        ⟨n.rivers, n.dams, released, [], []⟩) :=
    Settlement.sameAt_foldl (.refl name _) n.arrivals
  rw [hnone] at hfold
  exact hfold

end Network

end Catchment
