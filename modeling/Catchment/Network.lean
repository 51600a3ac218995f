import Catchment.Network.Dam
import Catchment.Table

/-!
# `Catchment.Network`: rivers, dams, and the connections between them

A network is what a program declares. Rivers hold water and have rain. A dam is a
river with a level of its own, so it stands in both tables under one name. A
connection leads water from some rivers to others. What leaves a river on one day
waits in the connection and arrives on the next.

* `River.rainOn`: the rain of a day.
* `Network.capacityOf`, `Network.withoutCapacity`: what rivers can hold.
* `Network.lastDay`: the number of days after which nothing new happens.
-/

set_option autoImplicit false

namespace Catchment

/-- A named store of water. A millimetre of rain adds a unit of volume. -/
structure River (α : Type) where
  name : String
  /-- The rain of the first day, the second day, and so on. -/
  rain : List α
  volume : α
deriving DecidableEq, Repr

/-- Why rain is not recorded. -/
inductive RainError where
  /-- The number of days is beyond what the length of a record can be. -/
  | daysBeyondLength
  /-- There is no room for a record of so many days. -/
  | noRoom
deriving DecidableEq, Repr

namespace RainError

/-- What is said of rain that is not recorded. -/
def message : RainError → String
  | daysBeyondLength => "cannot fit 'int' into an index-sized integer"
  | noRoom => ""

end RainError

namespace River

variable {α : Type} [Amount α]

/-- A river without rain and water. -/
def dry (name : String) : River α := ⟨name, [], 0⟩

/-- The least number of days that is beyond the length of a record. It may be given as a number
below nought, too, and then nothing is recorded. -/
def lengthBound : Nat := Nat.pow 2 63

/-- The least number of days for which there is no room. This number stands for the memory of the
machine, which gives out somewhere below the bound on the length: a record that does not fit into
it fails in a way of its own. No other place goes by this number. -/
def roomBound : Nat := Nat.pow 2 37

/-- The number of days for which rain is recorded, if there can be such a record. -/
def recordLength (days : Int) : Except RainError Nat :=
  if days < -(lengthBound : Int) ∨ (lengthBound : Int) ≤ days then .error .daysBeyondLength
  else if (roomBound : Int) ≤ days then .error .noRoom
  else .ok days.toNat

/-- The river with the same rain on each of a number of further days. -/
def addRain (r : River α) (amount : α) (days : Int) : Except RainError (River α) :=
  (recordLength days).map fun length => { r with rain := r.rain ++ List.replicate length amount }

/-- The river with one further day for every amount. -/
def addSeries (r : River α) (amounts : List α) : River α :=
  { r with rain := r.rain ++ amounts }

/-- The rain of a day. Days are counted from one, and there is none before the first and after the
last. -/
def rainOn (r : River α) (day : Int) : α :=
  if 1 ≤ day then r.rain[(day - 1).toNat]?.getD 0 else 0

/-- All the rain of a river. -/
def totalRain (r : River α) : α := Amount.total r.rain

end River

/-- A connection that leads water from its sources to its destinations. -/
structure Connection (α : Type) where
  /-- The name of a declared connection. The legs of a longer route have none. -/
  name : Option String
  sources : List String
  destinations : List String
  /-- What has left the sources and waits to arrive, by destination. -/
  waiting : Table α
deriving DecidableEq

namespace Connection

variable {α : Type}

/-- A connection without a name on which nothing waits. -/
def leg (sources destinations : List String) : Connection α := ⟨none, sources, destinations, ∅⟩

/-- Names with a plus between them. -/
def sumText (names : List String) : String := " + ".intercalate names

/-- The route of a connection, in words. -/
def describe (c : Connection α) : String := sumText c.sources ++ " -> " ++ sumText c.destinations

end Connection

/-- For how many days water flows out at least, and where a program does not say. -/
def shortestOutflow : Nat := 3

/-- Everything a program declares. -/
structure Network (α : Type) where
  rivers : Table (River α)
  dams : Table (Dam α)
  /-- What rivers can hold, where it is declared. -/
  capacities : Table α
  flows : List (Connection α)
  /-- For how many days water flows out. -/
  outflowDays : Nat
  /-- Whether that was declared. -/
  outflowDeclared : Bool
deriving DecidableEq

namespace Network

variable {α : Type}

/-- The network before any declaration. -/
def empty : Network α := ⟨∅, ∅, ∅, [], shortestOutflow, false⟩

/-- What a river can hold: as declared, or the capacity of the dam of that name. -/
def capacityOf (n : Network α) (name : String) : Option α :=
  match n.capacities.get? name with
  | some c => some c
  | none => (n.dams.get? name).map (·.capacity)

/-- The rivers for which no capacity is known, in order. -/
def withoutCapacity (n : Network α) : List String :=
  n.rivers.keys.filter fun name => !n.capacities.contains name && !n.dams.contains name

/-- The number of days of a whole run: all days with outflow and all days with rain. -/
def lastDay (n : Network α) : Nat :=
  max n.outflowDays ((n.rivers.values.map (·.rain.length)).foldl max 0)

end Network

end Catchment
