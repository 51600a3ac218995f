import Catchment.Proofs.Simulation
import Catchment.Failure

/-!
# `Catchment.Proofs.Simulation.Recorded`: every dam has its record

A simulation keeps a record for every dam that its network has at the start. A day
neither adds a dam nor takes one away, whatever the amounts are, so no dam is ever
without a record. What is left to stop a run is a river without a capacity, and that
is found before the first day.

* `Simulation.run_of_obstacle`: a run that a missing capacity keeps from starting.
* `Simulation.run_of_no_obstacle`: any other run ends with a report.
-/

set_option autoImplicit false

namespace Catchment

variable {α : Type} {n : Network α}

namespace Network

/-- What keeps a network from being run is that capacities are missing. -/
theorem eq_withoutCapacity_of_obstacle? {e : SimulationError} (h : n.obstacle? = some e) :
    e = .withoutCapacity n.withoutCapacity := by
  unfold obstacle? at h
  split at h
  · cases h
  · exact (Option.some.inj h).symm

/-- Where nothing stands in the way of a run, each river has a capacity. -/
theorem withoutCapacity_of_no_obstacle (h : n.obstacle? = none) : n.withoutCapacity = [] := by
  unfold obstacle? at h
  split at h
  · assumption
  · cases h

end Network

namespace Simulation

variable [Amount α] (settings : Settings α) (share : α)

/-- In a run that is kept from starting nothing happens. -/
theorem run_of_obstacle {e : SimulationError} (h : n.obstacle? = some e) :
    (start settings share n).run n =
      (⟨n, start settings share n, [], n.obstacleNotices, some e⟩, none) := by
  rw [run, h]

/-- A run that nothing keeps from starting goes on to its end. -/
theorem run_of_no_obstacle (h : n.obstacle? = none) :
    ((start settings share n).run n).1.error = none ∧
      ((start settings share n).run n).2.isSome := by
  have hkeys : (start settings share n).releases.keys = n.dams.keys := Table.keys_map _ _
  rw [run_eq hkeys (Network.withoutCapacity_of_no_obstacle h)]
  exact ⟨rfl, rfl⟩

end Simulation

end Catchment
