import Catchment.Network.Dam
import Catchment.Text.CodePoint

/-!
# `Catchment.Settings`: what can be adjusted

The limits that a run uses, the number of places in a report, and how much is
logged. Every setting has a default.
-/

set_option autoImplicit false

namespace Catchment

/-- When the final volume of a river is remarked upon, in percent of what the river can hold. -/
structure Limits (α : Type) where
  /-- From here on a river is close to its capacity. -/
  warningPercent : α
  /-- From here on a river is over its capacity. -/
  overflowPercent : α
deriving DecidableEq, Repr

/-- What can be adjusted. -/
structure Settings (α : Type) where
  storm : StormRule α
  limits : Limits α
  /-- The number of places in a report. -/
  precision : Nat
  /-- The name of the level from which on entries are logged. -/
  logLevel : CodeText
deriving DecidableEq, Repr

/-- The settings where nothing is said: ten millimetres are heavy rain, a dam meets it with a
twentieth of its capacity, and rivers are remarked upon from 80 and from 100 percent on. -/
def Settings.default {α : Type} [Amount α] : Settings α where
  storm := ⟨10, Amount.ofDecimal ⟨5, 2⟩⟩
  limits := ⟨80, 100⟩
  precision := 3
  logLevel := .ofString "WARNING"

end Catchment
