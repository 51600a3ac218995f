import Mathlib.Data.Nat.Bitwise
import Catchment.Amount.Binary
import Catchment.Proofs.Amount.Finite

/-!
# `Catchment.Proofs.Amount.Binary`: which binary numbers a text can give

The exact value of a binary number is read off its bits, and so is what the logical
model of the numbers unpacks from them. The two agree on which bits stand for no
number. The model rounds a quotient or a product of numbers to a number or to an
infinity of the same sign, so a written number never becomes what is no number. The
largest finite number is below the first that is too large to be counted, and so is
every whole part.

* `decode_eq_undefined_iff`: the bits that stand for no number.
* `sign?_unpack_pack`: the sign of a packed value.
* `exists_ofDecimal_eq_pack`: the sign of a written number.
* `numeral_ofDecimal_ne_undefined`: a written number is a number or an infinity.
* `natAbs_lt_of_truncate`: the whole parts of binary numbers.
-/

set_option autoImplicit false

namespace Catchment

namespace Binary

open Float.Model (Format UnpackedFloat)
open Float.Model.UnpackedFloat
    (Sign Accuracy unpackExponent unpackMantissa unpackSign packComponents
  roundWithAccuracy)

/-! ### The fields of the bits -/

/-- The exponent is read from the eleven bits behind the mantissa. -/
theorem toNat_unpackExponent (bits : UInt64) :
    (@unpackExponent Format.binary64 bits.toBitVec).toNat = ((bits >>> 52) &&& 0x7FF).toNat := by
  show (bits.toNat >>> 52) % 2 ^ 11 = (bits.toNat >>> 52) &&& (2 ^ 11 - 1)
  rw [Nat.and_two_pow_sub_one_eq_mod]

/-- The mantissa is read from the fifty-two lowest bits. -/
theorem toNat_unpackMantissa (bits : UInt64) :
    (@unpackMantissa Format.binary64 bits.toBitVec).toNat = (bits &&& 0xFFFFFFFFFFFFF).toNat := by
  show (bits.toNat >>> 0) % 2 ^ 52 = bits.toNat &&& (2 ^ 52 - 1)
  rw [Nat.and_two_pow_sub_one_eq_mod, Nat.shiftRight_zero]

/-- What bits stand for. The largest exponent is that of an infinity or of no number. Any other is
that of a zero or of a number whose mantissa has its leading bit, unless the exponent is the least
there is. -/
theorem unpack_cases (b : BitVec 64) :
    (@unpackExponent Format.binary64 b = -1#_ ∧
      (@unpackMantissa Format.binary64 b = 0#_ ∧
          UnpackedFloat.unpack Format.binary64 b
            = .infinity (.ofBitVec (@unpackSign Format.binary64 b)) ∨
        @unpackMantissa Format.binary64 b ≠ 0#_ ∧
          UnpackedFloat.unpack Format.binary64 b = .notANumber)) ∨
    (@unpackExponent Format.binary64 b ≠ -1#_ ∧
      (@unpackExponent Format.binary64 b = 0#_ ∧ @unpackMantissa Format.binary64 b = 0#_ ∧
          UnpackedFloat.unpack Format.binary64 b
            = .zero (.ofBitVec (@unpackSign Format.binary64 b)) ∨
        ∃ m e hm, UnpackedFloat.unpack Format.binary64 b
            = .finite (.ofBitVec (@unpackSign Format.binary64 b)) m e hm ∧
          -1074 ≤ e ∧ m < 2 ^ 53 ∧ (e = -1074 ∨ 2 ^ 52 ≤ m))) := by
  have hfraction : (@unpackMantissa Format.binary64 b).toNat < 2 ^ 52 := BitVec.isLt _
  unfold UnpackedFloat.unpack
  dsimp only
  -- The cases are those of the format: the largest exponent, the least, and any between.
  by_cases hexponent : @unpackExponent Format.binary64 b = -1#_
  · refine Or.inl ⟨hexponent, ?_⟩
    rw [if_pos hexponent]
    by_cases hmantissa : @unpackMantissa Format.binary64 b = 0#_
    · exact Or.inl ⟨hmantissa, if_pos hmantissa⟩
    · exact Or.inr ⟨hmantissa, if_neg hmantissa⟩
  · refine Or.inr ⟨hexponent, ?_⟩
    rw [if_neg hexponent]
    by_cases hleast : @unpackExponent Format.binary64 b = 0#_
    · rw [if_pos hleast]
      by_cases hmantissa : @unpackMantissa Format.binary64 b = 0#_
      · exact Or.inl ⟨hleast, hmantissa, dif_pos hmantissa⟩
      · have hsome : 0 < (@unpackMantissa Format.binary64 b).toNat :=
          Nat.pos_of_ne_zero fun hzero => hmantissa (BitVec.eq_of_toNat_eq hzero)
        refine Or.inr ⟨_, _, hsome, dif_neg hmantissa, ?_⟩
        rw [hleast]
        exact ⟨by decide, Nat.lt_trans hfraction (by decide), Or.inl (by decide)⟩
    · rw [if_neg hleast]
      have hpos : (@unpackExponent Format.binary64 b).toNat ≠ 0 := fun hzero =>
        hleast (BitVec.eq_of_toNat_eq hzero)
      -- The bit in front of the mantissa is not stored. With it there are at least `2 ^ 52`.
      have hleading : (1#1 ++ @unpackMantissa Format.binary64 b).toNat
          = 2 ^ 52 + (@unpackMantissa Format.binary64 b).toNat := by
        rw [BitVec.toNat_append, ← Nat.shiftLeft_add_eq_or_of_lt hfraction]
        rfl
      have hsome : 0 < (1#1 ++ @unpackMantissa Format.binary64 b).toNat := by
        rw [hleading]
        omega
      refine Or.inr ⟨_, _, hsome, rfl, ?_, ?_, Or.inr ?_⟩
      · show -1074 ≤ ((@unpackExponent Format.binary64 b).toNat : Int) - (1023 + 52)
        omega
      · rw [hleading]
        omega
      · rw [hleading]
        omega

/-- Bits stand for no number exactly if the exponent is the largest and the mantissa is not
nought. -/
theorem unpack_eq_notANumber_iff (b : BitVec 64) :
    UnpackedFloat.unpack Format.binary64 b = .notANumber ↔
      @unpackExponent Format.binary64 b = -1#_ ∧ @unpackMantissa Format.binary64 b ≠ 0#_ := by
  obtain ⟨hexponent, ⟨hmantissa, hu⟩ | ⟨hmantissa, hu⟩⟩ |
    ⟨hexponent, ⟨-, -, hu⟩ | ⟨m, e, hm, hu, -⟩⟩ :=
    unpack_cases b
  · exact iff_of_false (hu ▸ UnpackedFloat.noConfusion) fun h => h.2 hmantissa
  · exact iff_of_true hu ⟨hexponent, hmantissa⟩
  · exact iff_of_false (hu ▸ UnpackedFloat.noConfusion) fun h => hexponent h.1
  · exact iff_of_false (hu ▸ UnpackedFloat.noConfusion) fun h => hexponent h.1

/-- The bits that stand for no number. -/
theorem decode_eq_undefined_iff (bits : UInt64) :
    decode bits = .undefined ↔
      UnpackedFloat.unpack Format.binary64 bits.toBitVec = .notANumber := by
  rw [unpack_eq_notANumber_iff, ← BitVec.toNat_inj, ne_eq, ← BitVec.toNat_inj,
    toNat_unpackExponent, toNat_unpackMantissa]
  show _ ↔ _ = 0x7FF ∧ ¬_ = 0
  unfold decode
  generalize ((bits >>> 52) &&& 0x7FF).toNat = exponent
  generalize (bits &&& 0xFFFFFFFFFFFFF).toNat = fraction
  by_cases hexponent : exponent = 0x7FF
  · by_cases hfraction : fraction = 0 <;> simp [hexponent, hfraction]
  · simp only [hexponent, if_false, false_and, iff_false]
    split <;> simp

/-! ### Packed and unpacked -/

/-- Nothing but what is no number is packed as such. -/
theorem unpack_pack_ne {u : UnpackedFloat} (h : u ≠ .notANumber) :
    UnpackedFloat.unpack Format.binary64 (UnpackedFloat.pack Format.binary64 u)
      ≠ .notANumber := by
  rw [ne_eq, unpack_eq_notANumber_iff, not_and_or, not_ne_iff]
  fun_cases UnpackedFloat.pack Format.binary64 u with
  | case1 => exact absurd rfl h
  | case2 s | case3 s | case4 s =>
    -- An infinity and a zero have no fraction.
    right
    exact Float.Model.UnpackedFloat.unpackMantissa_packComponents
  | case5 s m e hm bits biased hfits =>
    -- The exponent of another number is not the largest one.
    left
    rw [Float.Model.UnpackedFloat.unpackExponent_packComponents, ← BitVec.toNat_inj]
    show biased % 2 ^ 11 ≠ 2 ^ 11 - 1
    have hfits' : ¬2 ^ 11 ≤ biased + 1 := hfits
    omega
  | case6 s m e hm bits biased hfits =>
    left
    rw [Float.Model.UnpackedFloat.unpackExponent_packComponents]
    decide

/-- What is packed stands for a number or an infinity, unless it is no number. -/
theorem decode_pack_ne {u : UnpackedFloat} (h : u ≠ .notANumber) :
    decode (Float.Model.pack u).toBits ≠ .undefined := by
  rw [ne_eq, decode_eq_undefined_iff]
  exact unpack_pack_ne h

/-! ### Signs -/

/-- The sign of an unpacked value, if it stands for a number or an infinity. -/
def sign? : UnpackedFloat → Option Sign
  | .infinity s | .zero s | .finite s .. => some s
  | .notANumber => none

/-- What has a sign is a number. -/
theorem ne_notANumber_of_sign? {u : UnpackedFloat} {s : Sign} (h : sign? u = some s) :
    u ≠ .notANumber := by
  rintro rfl
  cases h

/-- Rounding keeps the sign. -/
theorem sign?_roundWithAccuracy (spec : Format) (s : Sign) (m : Nat) (e : Int)
    (accuracy : Accuracy) :
    sign? (roundWithAccuracy spec s m e accuracy) = some s := by
  unfold roundWithAccuracy
  dsimp only
  generalize UnpackedFloat.shiftToTargetExponent spec m e accuracy = first
  generalize
    UnpackedFloat.shiftToTargetExponent spec first.1.roundedMantissa first.2 .exact = last
  by_cases h : last.1.mantissa = 0
  · rw [dif_pos h]
    rfl
  · rw [dif_neg h]
    rfl

/-- A whole number without a sign is rounded to something that is not below nought. -/
theorem sign?_ofNat (spec : Format) (n : Nat) :
    sign? (UnpackedFloat.ofNat spec n) = some .positive := by
  unfold UnpackedFloat.ofNat UnpackedFloat.ofInt UnpackedFloat.normalize
  split
  · rename_i hbelow
    exact absurd (Int.compare_eq_lt.mp hbelow) (Int.not_lt.mpr (Int.natCast_nonneg n))
  · rfl
  · exact sign?_roundWithAccuracy _ _ _ _ _

/-- A quotient by a number above nought has the sign of what is divided. -/
theorem sign?_div (spec : Format) {u : UnpackedFloat} {s : Sign} (h : sign? u = some s) (m : Nat)
    (e : Int) (hm : 0 < m) :
    sign? (UnpackedFloat.div spec u (.finite .positive m e hm)) = some s := by
  have hsign : s / .positive = s := by cases s <;> rfl
  cases u with
  | notANumber => cases h
  | finite s' =>
    cases h
    exact (sign?_roundWithAccuracy _ _ _ _ _).trans (congrArg some hsign)
  | infinity s' | zero s' =>
    cases h
    exact congrArg some hsign

/-- A written number without a sign becomes something that is not below nought. -/
theorem sign?_ofScientific (spec : Format) (m : Nat) (e : Int) :
    sign? (UnpackedFloat.ofScientific spec m e) = some .positive := by
  unfold UnpackedFloat.ofScientific
  by_cases hm : m = 0
  · rw [dif_pos hm]
    rfl
  rw [dif_neg hm]
  by_cases hlarge : e > 2 ^ spec.exponentBits
  · rw [if_pos hlarge]
    rfl
  rw [if_neg hlarge]
  by_cases hsmall : e < -(2 ^ spec.exponentBits + m.log2 : Int)
  · rw [if_pos hsmall]
    rfl
  rw [if_neg hsmall]
  by_cases hwhole : 0 ≤ e
  · rw [if_pos hwhole]
    exact sign?_roundWithAccuracy _ _ _ _ _
  · rw [if_neg hwhole]
    exact sign?_div _ rfl _ _ _

/-- The sign is the first of the packed bits. -/
theorem unpackSign_packComponents {spec : Format} (s : Sign) (e : BitVec spec.exponentBits)
    (m : BitVec spec.mantissaBitsWithoutImplicit) :
    unpackSign (packComponents spec s e m) = s.toBitVec := by
  ext i hi
  obtain rfl : i = 0 := by omega
  show (((s.toBitVec ++ e ++ m).extractLsb _ _).cast _)[0] = _
  simp [BitVec.getLsbD_append, BitVec.getElem_append]

/-- The sign that is packed is the one that is unpacked. -/
theorem ofBitVec_unpackSign {spec : Format} (s : Sign) (e : BitVec spec.exponentBits)
    (m : BitVec spec.mantissaBitsWithoutImplicit) :
    Sign.ofBitVec (unpackSign (packComponents spec s e m)) = s := by
  rw [unpackSign_packComponents]
  cases s <;> rfl

/-- What is unpacked has the sign of its bits, unless it is no number. -/
theorem sign?_unpack {b : BitVec 64} (h : UnpackedFloat.unpack Format.binary64 b ≠ .notANumber) :
    sign? (UnpackedFloat.unpack Format.binary64 b)
      = some (Sign.ofBitVec (@unpackSign Format.binary64 b)) := by
  obtain ⟨-, ⟨-, hu⟩ | ⟨-, hu⟩⟩ | ⟨-, ⟨-, -, hu⟩ | ⟨m, e, hm, hu, -⟩⟩ := unpack_cases b
  · exact congrArg sign? hu
  · exact absurd hu h
  · exact congrArg sign? hu
  · exact congrArg sign? hu

/-- To pack a value keeps its sign. -/
theorem sign?_unpack_pack (u : UnpackedFloat) :
    sign? (UnpackedFloat.unpack Format.binary64 (UnpackedFloat.pack Format.binary64 u))
      = sign? u := by
  by_cases h : u = .notANumber
  · subst h
    rfl
  rw [sign?_unpack (unpack_pack_ne h)]
  fun_cases UnpackedFloat.pack Format.binary64 u with
  | case1 => exact absurd rfl h
  | case2 s | case3 s => exact congrArg some (ofBitVec_unpackSign s _ _)
  | case4 s | case5 s | case6 s => exact congrArg some (ofBitVec_unpackSign s _ _)

/-! ### Written numbers -/

/-- Whether an unpacked value is a number above nought. -/
def isPositive : UnpackedFloat → Bool
  | .finite .positive .. => true
  | .finite .negative .. | .infinity _ | .notANumber | .zero _ => false

/-- The powers of ten that written numbers are divided by are numbers above nought. -/
theorem isPositive_powers :
    ∀ e : Fin 23, ∀ x, Float.exactlyRepresentablePowersOfTen[e.val]? = some x →
    isPositive (UnpackedFloat.unpack Format.binary64 x.toBits.toBitVec) := by
  decide

/-- A written number is packed from a value with a plus as its sign. -/
theorem exists_ofDecimal_eq_pack (d : Decimal) :
    ∃ u, (Amount.ofDecimal d : Float).toModel = Float.Model.pack u ∧
      sign? u = some .positive := by
  show ∃ u, (Float.ofScientific d.digits true d.places).toModel = Float.Model.pack u ∧ _
  unfold Float.ofScientific
  split
  · -- The digits and the power of ten are binary numbers, and one is divided by the other.
    rename_i h
    obtain ⟨hdigits, hplaces⟩ := h
    have hplaces' : d.places < Float.exactlyRepresentablePowersOfTen.size := by
      show d.places < 23
      omega
    generalize hpower : Float.exactlyRepresentablePowersOfTen[d.places] = power
    have hpositive := isPositive_powers ⟨d.places, hplaces'⟩ power
      (Array.getElem?_eq_some_iff.mpr ⟨hplaces', hpower⟩)
    refine ⟨UnpackedFloat.div Format.binary64
      (UnpackedFloat.unpack Format.binary64 (UnpackedFloat.pack Format.binary64
        (UnpackedFloat.ofNat Format.binary64 _)))
      (UnpackedFloat.unpack Format.binary64 power.toBits.toBitVec), rfl, ?_⟩
    cases hunpack : UnpackedFloat.unpack Format.binary64 power.toBits.toBitVec with
    | finite s m e hm =>
      cases s with
      | positive =>
        exact sign?_div _ ((sign?_unpack_pack _).trans (sign?_ofNat _ _)) m e hm
      | negative =>
        rw [hunpack] at hpositive
        cases hpositive
    | infinity | notANumber | zero =>
      rw [hunpack] at hpositive
      cases hpositive
  · exact ⟨_, rfl, sign?_ofScientific _ _ _⟩

/-! ### Whole parts -/

/-- A mantissa with its leading bit, shifted as far as a finite number allows, can be counted. -/
theorem mul_pow_lt_uncountable {mantissa shift : Nat} (hmantissa : mantissa < 2 ^ 53)
    (hshift : shift ≤ 971) : mantissa * 2 ^ shift < uncountable := by
  -- The largest shift is named, so that its power is worked out once only.
  obtain ⟨most, hmost⟩ : ∃ most, most = 971 := ⟨971, rfl⟩
  have hle : mantissa * 2 ^ shift ≤ (2 ^ 53 - 1) * 2 ^ most :=
    Nat.mul_le_mul (Nat.le_sub_one_of_lt hmantissa)
      (Nat.pow_le_pow_right Nat.zero_lt_two (hmost ▸ hshift))
  have hlt : (2 ^ 53 - 1) * 2 ^ most < uncountable := by
    rw [hmost]
    decide +kernel
  exact Nat.lt_of_le_of_lt hle hlt

/-- The whole part of a finite number can be counted. -/
theorem div_lt_of_decode {bits : UInt64} {negative : Bool} {num den : Nat}
    (h : decode bits = .finite negative num den) : num / den < uncountable := by
  have hexponent : ((bits >>> 52) &&& 0x7FF).toNat ≤ 0x7FF := Nat.and_le_right
  have hfraction : (bits &&& 0xFFFFFFFFFFFFF).toNat ≤ 0xFFFFFFFFFFFFF := Nat.and_le_right
  unfold decode at h
  simp only at h
  generalize ((bits >>> 52) &&& 0x7FF).toNat = exponent at h hexponent
  generalize (bits &&& 0xFFFFFFFFFFFFF).toNat = fraction at h hfraction
  have hmantissa : (if exponent = 0 then fraction else Nat.pow 2 52 + fraction) < 2 ^ 53 := by
    show (if exponent = 0 then fraction else 2 ^ 52 + fraction) < 2 ^ 53
    split <;> omega
  generalize
    (if exponent = 0 then fraction else Nat.pow 2 52 + fraction) = mantissa at h hmantissa
  split at h
  · split at h <;> cases h
  · split at h
    · cases h
      rw [Nat.div_one]
      exact mul_pow_lt_uncountable hmantissa (by omega)
    · cases h
      have hsmall := mul_pow_lt_uncountable hmantissa (Nat.zero_le _)
      rw [Nat.pow_zero, Nat.mul_one] at hsmall
      exact Nat.lt_of_le_of_lt (Nat.div_le_self _ _) hsmall

end Binary

/-- A written number is a number or an infinity. -/
theorem Amount.numeral_ofDecimal_ne_undefined (d : Decimal) :
    numeral (ofDecimal d : Float) ≠ .undefined := by
  obtain ⟨u, hpack, hsign⟩ := Binary.exists_ofDecimal_eq_pack d
  show Binary.decode (ofDecimal d : Float).toModel.toBits ≠ .undefined
  rw [hpack]
  exact Binary.decode_pack_ne (Binary.ne_notANumber_of_sign? hsign)

/-- The whole part of a binary number can be counted. -/
theorem Amount.natAbs_lt_of_truncate {v : Float} {days : Int} (h : truncate v = .ok days) :
    days.natAbs < Binary.uncountable := by
  unfold truncate at h
  cases hv : numeral v with
  | finite negative num den =>
    rw [hv] at h
    cases h
    have hlt : num / den < Binary.uncountable := Binary.div_lt_of_decode hv
    split
    · rwa [Int.natAbs_neg, Int.natAbs_natCast]
    · rwa [Int.natAbs_natCast]
  | infinite _ | undefined =>
    rw [hv] at h
    cases h

end Catchment
