import Catchment.Proofs.Exact
import Catchment.Network.Dam

/-!
# `Catchment.Proofs.Network.Dam`: the law of a dam, in closed form

A dam keeps what it does not let go: after a day's water its level is what there
was, less the release. The clamps of the law never change that. A dam that does
not meet heavy rain comes to its target or stays below it. One that does comes
down from there by the extra release, as far as there is water.

* `Dam.release_nonneg`, `Dam.release_le_available`: a dam lets go what it has.
* `Dam.level_settle`: what is not let go is kept.
* `Dam.kept`, `Dam.release_eq_available_sub_kept`: what is kept, in one formula.
* `Dam.release_le_release`: more water is never met by a smaller release.
* `Dam.level_and_release_in_closed_form`: all of this for one day's water.
* `Dam.level_settle_of_calm`, `Dam.level_settle_of_braced`: the level a dam comes to.
* `Dam.levelIfFirst`: the level it comes to after all that comes in on a day.
-/

set_option autoImplicit false

namespace Catchment

namespace Dam

variable {d : Dam Rat} {rule : StormRule Rat} {inflow rain : Rat}

/-- What a dam would let go, bounded by nothing and by what there is. -/
def bounded (d : Dam Rat) (rule : StormRule Rat) (inflow rain : Rat) : Rat :=
  max 0 (min (d.wanted rule inflow rain) (d.available inflow rain))

/-- What a dam lets go is what it would within bounds, or, where it cannot hold the rest, all that
it cannot hold. -/
theorem release_eq (d : Dam Rat) (rule : StormRule Rat) (inflow rain : Rat) :
    d.release rule inflow rain =
      if d.capacity < d.available inflow rain - d.bounded rule inflow rain
      then d.available inflow rain - d.capacity else d.bounded rule inflow rain := by
  simp only [release, bounded, Amount.larger_eq_max, Amount.smaller_eq_min]
  rfl

/-- Within bounds, a dam would not let go less than nothing. -/
theorem bounded_nonneg : 0 ≤ d.bounded rule inflow rain := le_max_left _ _

/-- Within bounds, a dam would not let go more than there is. -/
theorem bounded_le_available (h : 0 ≤ d.available inflow rain) :
    d.bounded rule inflow rain ≤ d.available inflow rain :=
  max_le h (min_le_right _ _)

/-- A dam does not let go less than nothing. -/
theorem release_nonneg : 0 ≤ d.release rule inflow rain := by
  rw [release_eq]
  have hbounded : 0 ≤ d.bounded rule inflow rain := bounded_nonneg
  split
  · rename_i hfull
    linarith
  · exact hbounded

/-- A dam does not let go more than there is. -/
theorem release_le_available (hcapacity : 0 ≤ d.capacity) (h : 0 ≤ d.available inflow rain) :
    d.release rule inflow rain ≤ d.available inflow rain := by
  rw [release_eq]
  split
  · linarith
  · exact bounded_le_available h

/-- What is left after the release fits into the dam. -/
theorem available_sub_release_le :
    d.available inflow rain - d.release rule inflow rain ≤ d.capacity := by
  rw [release_eq]
  split
  · linarith
  · rename_i hfits
    exact not_lt.mp hfits

/-- What is not let go is kept. -/
theorem level_settle (hcapacity : 0 ≤ d.capacity) (h : 0 ≤ d.available inflow rain) :
    (d.settle rule inflow rain).level = d.available inflow rain - d.release rule inflow rain := by
  show Amount.larger 0 (Amount.smaller d.capacity
    (d.available inflow rain - d.release rule inflow rain)) = _
  have hle : d.release rule inflow rain ≤ d.available inflow rain :=
    release_le_available hcapacity h
  rw [Amount.larger_eq_max, Amount.smaller_eq_min, min_eq_right available_sub_release_le,
    max_eq_right (sub_nonneg.mpr hle)]

/-- A dam is not regulated to a level below nought. -/
theorem level_settle_nonneg {K : Type} [Field K] [LinearOrder K] [Amount.Exact K] {d : Dam K}
    {rule : StormRule K} {inflow rain : K} : 0 ≤ (d.settle rule inflow rain).level := by
  show 0 ≤ Amount.larger _ _
  rw [Amount.larger_eq_max, Amount.zero_eq]
  exact le_max_left _ _

/-- A dam is not regulated to a level above its capacity. -/
theorem level_settle_le (hcapacity : 0 ≤ d.capacity) :
    (d.settle rule inflow rain).level ≤ d.capacity := by
  show Amount.larger 0 (Amount.smaller d.capacity _) ≤ d.capacity
  rw [Amount.larger_eq_max, Amount.smaller_eq_min]
  exact max_le hcapacity (min_le_left _ _)

/-! ### The level a dam comes to -/

/-- The target of a dam is not below nought if its percentage is not. -/
theorem target_nonneg (hcapacity : 0 ≤ d.capacity) (htarget : 0 ≤ d.targetPercent) :
    0 ≤ d.target := by
  show 0 ≤ d.capacity * d.targetPercent / 100
  positivity

/-- The target of a dam is not above its capacity if its percentage is at most a hundred. -/
theorem target_le_capacity (hcapacity : 0 ≤ d.capacity) (htarget : d.targetPercent ≤ 100) :
    d.target ≤ d.capacity := by
  show d.capacity * d.targetPercent / 100 ≤ d.capacity
  have h : d.capacity * d.targetPercent ≤ d.capacity * 100 :=
    mul_le_mul_of_nonneg_left htarget hcapacity
  linarith

/-- What stands above the target is what there is, less what fits below it. -/
private theorem excess_eq (a t : Rat) : max 0 (a - t) = a - min a t := by
  rcases le_total a t with h | h
  · rw [max_eq_left (sub_nonpos.mpr h), min_eq_left h, sub_self]
  · rw [max_eq_right (sub_nonneg.mpr h), min_eq_right h]

/-- The extra release by which a dam meets heavy rain, if it meets any. -/
def extra (d : Dam Rat) (rule : StormRule Rat) (rain : Rat) : Rat :=
  if d.bracesFor rule rain then d.capacity * rule.extraShare else 0

/-- A dam that does not brace for rain lets nothing go in addition. -/
theorem extra_of_calm (hcalm : d.bracesFor rule rain = false) : d.extra rule rain = 0 := by
  rw [extra, hcalm, if_neg Bool.false_ne_true]

/-- A dam that braces for rain lets a share of its capacity go in addition. -/
theorem extra_of_braced (hbraced : d.bracesFor rule rain = true) :
    d.extra rule rain = d.capacity * rule.extraShare := by
  rw [extra, if_pos hbraced]

/-- What a dam lets go in addition is not less than nothing. -/
theorem extra_nonneg (hcapacity : 0 ≤ d.capacity) (hextra : 0 ≤ rule.extraShare) :
    0 ≤ d.extra rule rain := by
  unfold extra
  split
  · exact mul_nonneg hcapacity hextra
  · exact le_refl _

/-- More rain is met by no smaller extra release. -/
theorem extra_le_extra (hcapacity : 0 ≤ d.capacity) (hextra : 0 ≤ rule.extraShare) {rain' : Rat}
    (h : rain ≤ rain') : d.extra rule rain ≤ d.extra rule rain' := by
  cases hbraces : d.bracesFor rule rain with
  | false =>
    rw [extra_of_calm hbraces]
    exact extra_nonneg hcapacity hextra
  | true =>
    have hbraces' : d.bracesFor rule rain' = true := by
      simp only [bracesFor, Bool.and_eq_true, decide_eq_true_eq] at hbraces ⊢
      exact ⟨hbraces.1.trans_le h, hbraces.2⟩
    rw [extra_of_braced hbraces, extra_of_braced hbraces']

/-- What a dam keeps of the water that there is: what fits below its target, less the extra
release, as far as there is water for it and room in the dam. -/
def kept (d : Dam Rat) (rule : StormRule Rat) (inflow rain : Rat) : Rat :=
  min d.capacity (max 0 (min (d.available inflow rain) d.target - d.extra rule rain))

/-- What a dam would let go is what there is, less what fits below its target, with the extra
release taken off that. -/
theorem wanted_eq (d : Dam Rat) (rule : StormRule Rat) (inflow rain : Rat) :
    d.wanted rule inflow rain = d.available inflow rain
      - (min (d.available inflow rain) d.target - d.extra rule rain) := by
  simp only [wanted, extra, Amount.larger_eq_max, excess_eq]
  split <;> ring

/-- Within bounds, a dam would keep what fits below its target less the extra release, as far as
there is any. -/
theorem bounded_eq (hextra : 0 ≤ d.extra rule rain) (h : 0 ≤ d.available inflow rain) :
    d.bounded rule inflow rain = d.available inflow rain
      - max 0 (min (d.available inflow rain) d.target - d.extra rule rain) := by
  have hlow : min (d.available inflow rain) d.target ≤ d.available inflow rain := min_le_left _ _
  rw [bounded, wanted_eq]
  -- The dam runs dry if the extra release is more than what the target leaves.
  rcases le_total (min (d.available inflow rain) d.target) (d.extra rule rain) with hdry | hwet
  · rw [max_eq_left (sub_nonpos.mpr hdry), min_eq_right (by linarith), max_eq_right h, sub_zero]
  · rw [max_eq_right (sub_nonneg.mpr hwet), min_eq_left (by linarith), max_eq_right (by linarith)]

/-- A dam lets go what it does not keep. -/
theorem release_eq_available_sub_kept (hextra : 0 ≤ d.extra rule rain)
    (h : 0 ≤ d.available inflow rain) :
    d.release rule inflow rain = d.available inflow rain - d.kept rule inflow rain := by
  rw [release_eq, bounded_eq hextra h, sub_sub_cancel, kept]
  split
  · rename_i hfull
    rw [min_eq_left hfull.le]
  · rename_i hfits
    rw [min_eq_right (not_lt.mp hfits)]

/-- A dam is regulated to the level that is told in closed form. -/
theorem level_settle_eq_kept (hcapacity : 0 ≤ d.capacity) (hextra : 0 ≤ d.extra rule rain)
    (h : 0 ≤ d.available inflow rain) :
    (d.settle rule inflow rain).level = d.kept rule inflow rain := by
  rw [level_settle hcapacity h, release_eq_available_sub_kept hextra h, sub_sub_cancel]

/-- More water, with no smaller extra release, leaves no more in a dam than there is more of
it. -/
theorem kept_le_kept_add {inflow' rain' : Rat}
    (h : d.available inflow rain ≤ d.available inflow' rain')
    (hextra : d.extra rule rain ≤ d.extra rule rain') :
    d.kept rule inflow' rain' ≤ d.kept rule inflow rain
      + (d.available inflow' rain' - d.available inflow rain) := by
  -- Each of the three bounds rises by no more than the water does.
  have hmin : min (d.available inflow' rain') d.target
      ≤ min (d.available inflow rain) d.target
        + (d.available inflow' rain' - d.available inflow rain) := by
    rw [← min_add_add_right]
    exact min_le_min (by linarith) (by linarith)
  have hmax : max 0 (min (d.available inflow' rain') d.target - d.extra rule rain')
      ≤ max 0 (min (d.available inflow rain) d.target - d.extra rule rain)
        + (d.available inflow' rain' - d.available inflow rain) := by
    rw [← max_add_add_right]
    exact max_le_max (by linarith) (by linarith)
  rw [kept, kept, ← min_add_add_right]
  exact min_le_min (by linarith) hmax

/-- The more arrives and the more rain falls, the more a dam lets go. -/
theorem release_le_release (hcapacity : 0 ≤ d.capacity) (hextra : 0 ≤ rule.extraShare)
    (h : 0 ≤ d.available inflow rain) {inflow' rain' : Rat} (hinflow : inflow ≤ inflow')
    (hrain : rain ≤ rain') : d.release rule inflow rain ≤ d.release rule inflow' rain' := by
  have hmore : d.available inflow rain ≤ d.available inflow' rain' :=
    add_le_add (add_le_add le_rfl hinflow) hrain
  have hkept := kept_le_kept_add hmore (extra_le_extra hcapacity hextra hrain)
  rw [release_eq_available_sub_kept (extra_nonneg hcapacity hextra) h,
    release_eq_available_sub_kept (extra_nonneg hcapacity hextra) (h.trans hmore)]
  linarith

/-- The law of a dam in closed form. Of all the water that there is, it keeps what fits below its
target, less the extra release if the rain is heavy and the dam close to its target, as far as
there is water for it and room in the dam. It lets go the rest, so the bounds on its level neither
make nor take any water. The more arrives and the more rain falls, the more it lets go. -/
theorem level_and_release_in_closed_form
    (hlevel : 0 ≤ d.level ∧ d.level ≤ d.capacity) (hextra : 0 ≤ rule.extraShare)
    (hinflow : 0 ≤ inflow) (hrain : 0 ≤ rain) :
    let available := d.level + inflow + rain
    let target := d.capacity * d.targetPercent / 100
    let extra := if rule.heavyRain < rain ∧ d.targetPercent - 20 < d.levelPercent
      then d.capacity * rule.extraShare else 0
    let release := d.release rule inflow rain
    let after := d.fill inflow release rain
    after = { d with level := min d.capacity (max 0 (min available target - extra)) } ∧
      release = available - after.level ∧ 0 ≤ release ∧ release ≤ available ∧
      (∀ inflow', inflow ≤ inflow' → release ≤ d.release rule inflow' rain) ∧
      ∀ rain', rain ≤ rain' → release ≤ d.release rule inflow rain' := by
  intro available target extra release after
  have hcapacity : 0 ≤ d.capacity := hlevel.1.trans hlevel.2
  have havailable : 0 ≤ available := add_nonneg (add_nonneg hlevel.1 hinflow) hrain
  have hextra_eq : extra = d.extra rule rain := by
    simp only [extra, Dam.extra, bracesFor, Bool.and_eq_true, decide_eq_true_eq]
  -- What is kept gives the closed form; what is let go is the rest, and grows with the water.
  have hkept : after.level = min d.capacity (max 0 (min available target - extra)) := by
    rw [hextra_eq]
    exact level_settle_eq_kept hcapacity (extra_nonneg hcapacity hextra) havailable
  have hrelease : after.level = available - release := level_settle hcapacity havailable
  refine ⟨?_, ?_, release_nonneg, release_le_available hcapacity havailable, ?_, ?_⟩
  · rw [← hkept]
    rfl
  · rw [hrelease, sub_sub_cancel]
  · intro inflow' h
    exact release_le_release hcapacity hextra havailable h le_rfl
  · intro rain' h
    exact release_le_release hcapacity hextra havailable le_rfl h

/-- Heavy rain on a dam that is close to its target: of 120 it keeps 80, less the extra release of
5. -/
theorem level_and_release_in_closed_form_storm :
    let d : Dam Rat := ⟨"lake", 100, 80, 70⟩
    let rule : StormRule Rat := ⟨10, 1 / 20⟩
    (0 ≤ d.level ∧ d.level ≤ d.capacity) ∧ 0 ≤ rule.extraShare ∧ (0 : Rat) ≤ 30 ∧ (0 : Rat) ≤ 20 ∧
      d.fill 30 (d.release rule 30 20) 20 = { d with level := 75 } ∧ d.release rule 30 20 = 45 ∧
      d.release rule 30 20 ≤ d.release rule 31 20 ∧
        d.release rule 30 20 ≤ d.release rule 30 21 := by
  intro d rule
  have hlevel : 0 ≤ d.level ∧ d.level ≤ d.capacity := by decide
  have hextra : 0 ≤ rule.extraShare := by decide +kernel
  have hinflow : (0 : Rat) ≤ 30 := by decide
  have hrain : (0 : Rat) ≤ 20 := by decide
  obtain ⟨hafter, hrelease, -, -, hmoreInflow, hmoreRain⟩ :=
    level_and_release_in_closed_form hlevel hextra hinflow hrain
  refine ⟨hlevel, hextra, hinflow, hrain, hafter.trans ?_, hrelease.trans ?_,
    hmoreInflow 31 (by decide), hmoreRain 21 (by decide)⟩
  · decide +kernel
  · rw [hafter]
    decide +kernel

/-- A dam that does not meet heavy rain comes to its target, or stays below it. -/
theorem level_settle_of_calm (hcapacity : 0 ≤ d.capacity) (htarget : 0 ≤ d.targetPercent)
    (hle : d.targetPercent ≤ 100) (h : 0 ≤ d.available inflow rain)
    (hcalm : d.bracesFor rule rain = false) :
    (d.settle rule inflow rain).level = min (d.available inflow rain) d.target := by
  have hextra : d.extra rule rain = 0 := extra_of_calm hcalm
  have hkept : 0 ≤ min (d.available inflow rain) d.target :=
    le_min h (target_nonneg hcapacity htarget)
  have hfits : min (d.available inflow rain) d.target ≤ d.capacity :=
    (min_le_right _ _).trans (target_le_capacity hcapacity hle)
  rw [level_settle_eq_kept hcapacity hextra.ge h, kept, hextra, sub_zero, max_eq_right hkept,
    min_eq_right hfits]

/-- A dam that meets heavy rain comes down by the extra release, as far as there is water. -/
theorem level_settle_of_braced (hcapacity : 0 ≤ d.capacity) (hle : d.targetPercent ≤ 100)
    (hextra : 0 ≤ rule.extraShare) (h : 0 ≤ d.available inflow rain)
    (hbraced : d.bracesFor rule rain = true) :
    (d.settle rule inflow rain).level
      = max 0 (min (d.available inflow rain) d.target - d.capacity * rule.extraShare) := by
  have hloss : 0 ≤ d.capacity * rule.extraShare := mul_nonneg hcapacity hextra
  have hkept : min (d.available inflow rain) d.target ≤ d.target := min_le_right _ _
  have hfits : d.target ≤ d.capacity := target_le_capacity hcapacity hle
  rw [level_settle_eq_kept hcapacity (extra_nonneg hcapacity hextra) h, kept,
    extra_of_braced hbraced, min_eq_right (max_le hcapacity (by linarith))]

end Dam

/-- What settings may say of heavy rain: it is some rain or none, and the extra release is a share
of the capacity. -/
structure StormRule.Admissible (rule : StormRule Rat) : Prop where
  heavyRain : 0 ≤ rule.heavyRain
  extraShare : 0 ≤ rule.extraShare ∧ rule.extraShare ≤ 1

namespace Dam

variable {d : Dam Rat} {rule : StormRule Rat} {rain : Rat}

/-- No dam braces for no rain. -/
theorem bracesFor_zero (hheavy : 0 ≤ rule.heavyRain) : d.bracesFor rule 0 = false := by
  rw [bracesFor, decide_eq_false (not_lt.mpr hheavy), Bool.false_and]

/-- Whatever arrives, a dam comes to its target or stays below it. -/
theorem level_settle_le_target (hextra : d.bracesFor rule rain = true → 0 ≤ rule.extraShare)
    (hcapacity : 0 ≤ d.capacity) (htarget : 0 ≤ d.targetPercent ∧ d.targetPercent ≤ 100)
    {inflow : Rat} (h : 0 ≤ d.available inflow rain) :
    (d.settle rule inflow rain).level ≤ d.target := by
  have hkept : min (d.available inflow rain) d.target ≤ d.target := min_le_right _ _
  cases hbraces : d.bracesFor rule rain with
  | false =>
    rw [level_settle_of_calm hcapacity htarget.1 htarget.2 h hbraces]
    exact hkept
  | true =>
    have hloss : 0 ≤ d.capacity * rule.extraShare := mul_nonneg hcapacity (hextra hbraces)
    rw [level_settle_of_braced hcapacity htarget.2 (hextra hbraces) h hbraces]
    exact max_le (target_nonneg hcapacity htarget.1) (by linarith)

/-- The level a dam comes to on a day, where an amount comes in first, with the rain, and then the
rest of all that comes in. -/
def levelIfFirst (rule : StormRule Rat) (rain total : Rat) (d : Dam Rat) (first : Rat) : Rat :=
  min ((d.settle rule first rain).level + (total - first)) d.target

/-- Where the dam has no heavy rain to meet, it does not matter what comes in first. -/
theorem levelIfFirst_of_calm (hcapacity : 0 ≤ d.capacity)
    (htarget : 0 ≤ d.targetPercent ∧ d.targetPercent ≤ 100) {total first : Rat}
    (h : 0 ≤ d.available first rain) (hrest : first ≤ total)
    (hcalm : d.bracesFor rule rain = false) :
    d.levelIfFirst rule rain total first = min (d.available total rain) d.target := by
  have hsum : d.available first rain + (total - first) = d.available total rain := by
    simp only [available]
    ring
  rw [levelIfFirst, level_settle_of_calm hcapacity htarget.1 htarget.2 h hcalm, ← hsum]
  rcases le_total (d.available first rain) d.target with hlow | hhigh
  · rw [min_eq_left hlow]
  · -- The dam is at its target, and the rest does not change that.
    rw [min_eq_right hhigh, min_eq_right (by linarith), min_eq_right (by linarith)]

end Dam

end Catchment
