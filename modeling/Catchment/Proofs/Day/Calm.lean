import Catchment.Proofs.Day.Regulation
import Catchment.Proofs.Day.Told

/-!
# `Catchment.Proofs.Day.Calm`: a dam that meets no heavy rain

A dam that does not brace for heavy rain fills up to its target and lets the rest go.
So it makes no difference in how many parts the water of a day comes in, in which order,
and by which connections: the level, and all that is let go, are told from the sum. The
rain of the day counts with the first part. What the dam keeps fits into it, so nothing
spills when the day is over.

* `calm_dam_goes_by_its_total_inflow`: the day of such a dam.
-/

set_option autoImplicit false

namespace Catchment

namespace Network

variable {rule : StormRule Rat} {share : Rat} {day : Int} {n : Network Rat} {name : String}
  {d : Dam Rat} {r : River Rat}

/-- A dam within its bounds that does not brace for the rain of a day, and to which water comes.
After the arrivals its level is what there is, up to the target, and its river stands at that
level. The rest has been let go, and that is what is recorded and what is told of it. The rain
counts with what comes in first, and with nothing that comes in later. When the day is over
nothing more has been let go. All of this is told from the sum of what comes in, whatever else
there is in the network. -/
theorem calm_dam_goes_by_its_total_inflow (hheavy : 0 ≤ rule.heavyRain)
    (hd : n.dams.get? name = some d) (hr : n.rivers.get? name = some r)
    (hlevel : 0 ≤ d.level ∧ d.level ≤ d.capacity)
    (htarget : 0 ≤ d.targetPercent ∧ d.targetPercent ≤ 100) (hrain : 0 ≤ r.rainOn day)
    (hcalm : ¬(rule.heavyRain < r.rainOn day ∧ d.targetPercent - 20 < d.levelPercent))
    (hcomes : inflows name n.arrivals ≠ []) :
    let coming := inflows name n.arrivals
    let water := d.level + r.rainOn day + coming.sum
    let level := min water (d.capacity * d.targetPercent / 100)
    let s := n.settlement rule day n.nothingReleased
    let arrived := n.settle rule day n.nothingReleased
    arrived.dams.get? name = some { d with level := level } ∧
      arrived.rivers.get? name = some { r with volume := level } ∧
      s.released.get? name = some (water - level) ∧
      Event.released name s.events = water - level ∧
      (∃ first later, coming = first :: later ∧
        Event.intakes name s.events = (first, r.rainOn day) :: later.map fun x => (x, 0)) ∧
      (n.volumes.Nonneg → ∀ share,
        ((arrived.outflowOn share day).network.spilled s.released).get? name
          = some (water - level)) := by
  intro coming water level s arrived
  have hregular : d.Regular := ⟨hlevel, htarget⟩
  have hquiet : d.bracesFor rule (r.rainOn day) = false := by
    rw [Dam.bracesFor, ← Bool.decide_and, decide_eq_false_iff_not]
    exact hcalm
  have hready : d.Ready rule (r.rainOn day) :=
    ⟨hregular, hrain, hheavy,
      fun hbraces => absurd hbraces (by rw [hquiet]; exact Bool.false_ne_true)⟩
  have hnothing : n.nothingReleased.get? name = some 0 := by
    rw [nothingReleased, Table.get?_map, hd]
    rfl
  have hat : s.RegulatedAt rule day name d r 0 coming :=
    regulatedAt_settlement hd hr hready hnothing
  have hnonneg : ∀ x ∈ coming, 0 ≤ x := nonneg_of_mem_inflows
  have hwater : d.available coming.sum (r.rainOn day) = water := add_right_comm _ _ _
  -- Without heavy rain, the level is told from the sum.
  have hafter : d.levelAfter rule (r.rainOn day) coming = level := by
    rw [hregular.levelAfter_of_calm hrain hnonneg hcomes hquiet, hwater]
    rfl
  have hdam : arrived.dams.get? name = some { d with level := level } := by
    rw [← hafter]
    exact hat.dam
  have hriver : arrived.rivers.get? name = some { r with volume := level } := by
    rw [← hafter]
    exact hat.river.trans (by rw [if_neg hcomes])
  have hreleased : s.released.get? name = some (water - level) := by
    rw [hat.released, Dam.releaseAfter, if_neg hcomes, zero_add, hafter, hwater]
  have htold : s.released.get? name = some (Event.released name s.events) := by
    rw [(settlement_tells rule day n).2 name, hd]
    rfl
  refine ⟨hdam, hriver, hreleased, Option.some.inj (htold.symm.trans hreleased), ?_, ?_⟩
  · cases hcoming : coming with
    | nil => exact absurd hcoming hcomes
    | cons first later =>
      refine ⟨first, later, rfl, ?_⟩
      rw [hat.intakes, hcoming, Dam.withRain]
  · intro hv share
    -- What the dam keeps fits into it.
    have hfits : level ≤ d.capacity :=
      (min_le_right _ _).trans (Dam.target_le_capacity hregular.capacity_nonneg htarget.2)
    have hn : n.Nonneg := nonneg_volumes_iff.mp hv
    have hvolumes : arrived.volumes.Nonneg :=
      nonneg_volumes_iff.mpr (hn.settle rule day n.nothingReleased)
    rw [get?_spilled_outflowOn hvolumes hdam hriver hfits, hreleased]

/-- Three connections bring 21 to a dam that holds 30 of 100 and has its target at a half. With
the rain of 5 there are 56, so the dam keeps 50 and lets go 6, and the rain counts with the first
10. -/
theorem calm_dam_goes_by_its_total_inflow_shared :
    let n : Network Rat :=
      { empty with
        rivers := .ofList [("d", ⟨"d", [0, 5], 35⟩), ("e", ⟨"e", [], 8⟩)]
        dams := .ofList [("d", ⟨"d", 100, 50, 30⟩)]
        flows := [⟨some "f", ["e"], ["d"], .ofList [("d", 10)]⟩,
          ⟨none, ["e"], ["e", "d"], .ofList [("e", 1), ("d", 4)]⟩,
          ⟨some "g", ["e"], ["d"], .ofList [("d", 7)]⟩] }
    let rule : StormRule Rat := ⟨10, 1 / 20⟩
    let s := n.settlement rule 2 n.nothingReleased
    let arrived := n.settle rule 2 n.nothingReleased
    inflows "d" n.arrivals = [10, 4, 7] ∧
      arrived.dams.get? "d" = some ⟨"d", 100, 50, 50⟩ ∧
      arrived.rivers.get? "d" = some ⟨"d", [0, 5], 50⟩ ∧
      Event.released "d" s.events = 6 ∧
      Event.intakes "d" s.events = [(10, 5), (4, 0), (7, 0)] ∧
      ((arrived.outflowOn (1 / 2) 2).network.spilled s.released).get? "d" = some 6 := by
  intro n rule s arrived
  have hcoming : inflows "d" n.arrivals = [10, 4, 7] := by decide +kernel
  have hvolumes : n.volumes.Nonneg := by
    have hentries : ∀ e ∈ n.volumes.entries, 0 ≤ e.2 := by decide +kernel
    intro name volume hget
    exact hentries _ ((n.volumes.mem_entries name volume).mpr hget)
  have hheavy : 0 ≤ rule.heavyRain := by decide +kernel
  have hd : n.dams.get? "d" = some ⟨"d", 100, 50, 30⟩ := by decide +kernel
  have hr : n.rivers.get? "d" = some ⟨"d", [0, 5], 35⟩ := by decide +kernel
  have hrain : (0 : Rat) ≤ River.rainOn ⟨"d", [0, 5], 35⟩ 2 := by decide +kernel
  obtain ⟨hdam, hriver, -, htold, ⟨first, later, hfirst, hintakes⟩, hspilled⟩ :=
    calm_dam_goes_by_its_total_inflow hheavy hd hr (by decide +kernel) (by decide +kernel) hrain
      (by decide +kernel) (by rw [hcoming]; exact List.cons_ne_nil _ _)
  have hwater : (30 : Rat) + (River.rainOn ⟨"d", [0, 5], 35⟩ 2) + (inflows "d" n.arrivals).sum
      = 56 := by
    decide +kernel
  have hlevel : min (56 : Rat) (100 * 50 / 100) = 50 := by decide +kernel
  simp only [hwater, hlevel] at hdam hriver htold hspilled
  refine ⟨hcoming, hdam, hriver, ?_, ?_, ?_⟩
  · rw [htold]
    decide +kernel
  · rw [hcoming] at hfirst
    cases hfirst
    exact hintakes
  · rw [hspilled hvolumes]
    decide +kernel

end Network

end Catchment
