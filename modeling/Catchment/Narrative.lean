import Catchment.Event

/-!
# `Catchment.Narrative`: a run told in words

The events of a run are written out one after the other. Volumes have a set number
of places; rain, capacities and targets have six significant digits. The summary
at the end gets a title, once for each run.

A number of places below nought, or far too large a one, cannot be written. It does
no harm as long as no volume is told, and ends the telling where one is.

* `Narrative.sentence`: what is written for an event.
* `Narrative.tell`: what is written for a list of events.
-/

set_option autoImplicit false

namespace Catchment

/-- Why volumes cannot be written with a number of places. -/
inductive PlacesError where
  | belowNought
  | tooMany
  /-- There are so many places that their number cannot be read. -/
  | unreadable
deriving DecidableEq, Repr

/-- What is said of a number of places. -/
def PlacesError.message : PlacesError → String
  | belowNought => "Format specifier missing precision"
  | tooMany => "precision too big"
  | unreadable => "Too many decimal digits in format string"

/-- How far a run has been told. -/
structure Narrative where
  text : String
  /-- Whether the title of the summary has been written. -/
  summaryBegun : Bool
  /-- Why the telling ended, if a volume could not be written. -/
  broken : Option PlacesError
deriving DecidableEq, Repr

namespace Narrative

variable {α : Type} [Amount α]

/-- Nothing has been told. -/
def start : Narrative := ⟨"", false, none⟩

/-- The number of places, or why volumes cannot be written with them. -/
def checkedPlaces (places : Int) : Except PlacesError Nat :=
  if places < 0 then .error .belowNought
  else if (Nat.pow 2 63 : Nat) ≤ places then .error .unreadable
  else if (Nat.pow 2 31 : Nat) ≤ places then .error .tooMany
  else .ok places.toNat

/-- Lines, each with a line end. -/
def written (lines : List String) : String := String.join (lines.map (· ++ "\n"))

/-- The lines that announce a river. -/
def riverLines (r : RiverSummary α) : List String :=
  ["  " ++ r.name ++ ":", "    Total rainfall: " ++ Amount.general r.totalRain ++ "mm"] ++
    match r.capacity with
    | some c => ["    Capacity: " ++ Amount.general c ++ "ML"]
    | none => []

/-- The lines that announce a dam. -/
def damLines (d : DamSummary α) : List String :=
  ["  " ++ d.name ++ ":",
    "    Capacity: " ++ Amount.general d.capacity ++ "ML",
    "    Target level: " ++ Amount.general d.targetPercent ++ "%"]

/-- Lines under a title, or nothing if there are none. -/
def titled (title : String) : List String → List String
  | [] => []
  | lines => ("\n" ++ title) :: lines

/-- The lines that announce the connections, numbered from one. -/
def routeLines (routes : List String) : List String :=
  (routes.zipIdx 1).map fun (route, i) => s!"  Flow {i}: " ++ route

/-- The line for an event that needs volumes to be written. -/
def volumeLine (fixed : α → String) : Event α → String
  | .rained _ river amount volume =>
    let rain := Amount.general amount
    s!"  {river}: +{rain}mm ({rain}ML), total: " ++ fixed volume ++ "ML"
  | .arrived _ destination amount _ =>
    "  Flow: +" ++ fixed amount ++ "ML to " ++ destination ++ " (from yesterday)"
  | .regulated _ dam inflow _ release level levelPercent =>
    "  Dam " ++ dam ++ ": inflow +" ++ fixed inflow ++ "ML (from yesterday), level " ++
      fixed level ++ "ML (" ++ fixed levelPercent ++ "%), released " ++ fixed release ++ "ML"
  | .scheduled _ _ destination amount =>
    "  Flow scheduled: " ++ fixed amount ++ "ML -> " ++ destination ++ " (will arrive tomorrow)"
  | .finalVolume river volume _ => river ++ ": " ++ fixed volume ++ "ML"
  | .nearCapacity _ percent => "  WARNING: At " ++ fixed percent ++ "% capacity"
  | .overCapacity _ excess => "  WARNING: Capacity exceeded! Overflow: " ++ fixed excess ++ "ML"
  | .started .. | .dayBegun _ => ""

/-- The title in front of the first final volume. -/
def heading (begun : Bool) : Event α → List String
  | .finalVolume .. => if begun then [] else ["\n=== Final Summary ==="]
  | _ => []

/-- Whether the title of the summary has been written after an event. -/
def begunAfter (begun : Bool) : Event α → Bool
  | .started .. => false
  | .finalVolume .. => true
  | _ => begun

/-- The lines for an event that needs no volume to be written, if it is one. -/
def plainLines? : Event α → Option (List String)
  | .started outflowDays _ rivers dams routes =>
    some (["\n=== Water Flow Simulation ===", s!"Flow period: {outflowDays} days\n", "Rivers:"] ++
      rivers.flatMap riverLines ++ titled "Dams:" (dams.flatMap damLines) ++
      titled "Flow connections:" (routeLines routes) ++ ["\n=== Daily Simulation ==="])
  | .dayBegun day => some [s!"\nDay {day}:"]
  | _ => none

/-- The telling with one more event, with a number of places. A broken telling does not go on. -/
def sentence (places : Int) (told : Narrative) (e : Event α) : Narrative :=
  if told.broken.isSome then told
  else
    let begun := begunAfter told.summaryBegun e
    match plainLines? e with
    | some lines => ⟨told.text ++ written lines, begun, none⟩
    | none =>
      let title := written (heading told.summaryBegun e)
      match checkedPlaces places with
      | .error reason => ⟨told.text ++ title, begun, some reason⟩
      | .ok places =>
        let line := volumeLine (Amount.fixed places) e
        ⟨told.text ++ title ++ written [line], begun, none⟩

/-- A list of events told in words. -/
def tell (places : Int) (events : List (Event α)) : Narrative :=
  events.foldl (sentence places) start

end Narrative

end Catchment
