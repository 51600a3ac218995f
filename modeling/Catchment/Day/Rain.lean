import Catchment.Event

/-!
# `Catchment.Day.Rain`: rain falls

The first thing in a day is its rain. Where there is any, it is added to the river
it falls on.
-/

set_option autoImplicit false

namespace Catchment

variable {α : Type} [Amount α]

/-- A river after the rain of a day. -/
def River.takeRain (day : Int) (r : River α) : River α :=
  if 0 < r.rainOn day then { r with volume := r.volume + r.rainOn day } else r

/-- What is told of the rain of a day on a river. -/
def River.rainEvent? (day : Int) (r : River α) : Option (Event α) :=
  if 0 < r.rainOn day then some (.rained day r.name (r.rainOn day) (r.takeRain day).volume)
  else none

/-- The network after the rain of a day. -/
def Network.takeRain (day : Int) (n : Network α) : Network α :=
  { n with rivers := n.rivers.map (·.takeRain day) }

/-- What is told of the rain of a day, river by river. -/
def Network.rainEvents (day : Int) (n : Network α) : List (Event α) :=
  n.rivers.values.filterMap (·.rainEvent? day)

end Catchment
