import Catchment.Amount

/-!
# `Catchment.Amount.Binary`: amounts in binary floating point

A binary number of 64 bits is a whole number times a power of two, an infinity,
or no number. `decode` takes the bits apart. Written numbers are rounded to the
nearest binary number, and a batch is added up in blocks, which keeps the error
of a long sum small.

* `decode`: the exact value behind the bits.
* `blockTotal`: the order of addition for a batch.
-/

set_option autoImplicit false

namespace Catchment

namespace Binary

/-- The exact value behind 64 bits: a sign, eleven bits of exponent and 52 of fraction. -/
def decode (bits : UInt64) : Numeral :=
  let negative := bits >>> 63 != 0
  let exponent := ((bits >>> 52) &&& 0x7FF).toNat
  let fraction := (bits &&& 0xFFFFFFFFFFFFF).toNat
  if exponent = 0x7FF then
    if fraction = 0 then .infinite negative else .undefined
  else
    -- The smallest exponent has no hidden leading bit and counts as the second smallest.
    let mantissa := if exponent = 0 then fraction else Nat.pow 2 52 + fraction
    let shift := max exponent 1
    if 1075 ≤ shift then .finite negative (mantissa * Nat.pow 2 (shift - 1075)) 1
    else .finite negative mantissa (Nat.pow 2 (1075 - shift))

/-- The least whole number that rounds to no binary number: halfway from the largest one to where
the next would be. -/
def uncountable : Nat := Nat.pow 2 1024 - Nat.pow 2 970

/-- The amounts of a list added one after the other to a first amount. -/
def addAll (start : Float) (xs : List Float) : Float := xs.foldl (· + ·) start

/-- Adds to eight running sums, eight amounts at a time, then joins the sums in pairs and adds
what is left over. -/
def eightfold (sums : List Float) (xs : List Float) : Float :=
  if 8 ≤ xs.length then eightfold (List.zipWith (· + ·) sums (xs.take 8)) (xs.drop 8)
  else
    match sums with
    | [a, b, c, d, e, f, g, h] => addAll (((a + b) + (c + d)) + ((e + f) + (g + h))) xs
    | _ => addAll (addAll 0 sums) xs
termination_by xs.length
decreasing_by simp only [List.length_drop]; omega

/-- The sum of a batch: short ones from left to right, those of up to 128 amounts by eight running
sums, and longer ones as the sum of two halves, the first a multiple of eight long. -/
def blockTotal (xs : List Float) : Float :=
  if xs.length < 8 then addAll 0 xs
  else if xs.length ≤ 128 then eightfold (xs.take 8) (xs.drop 8)
  else
    let half := xs.length / 2 - xs.length / 2 % 8
    blockTotal (xs.take half) + blockTotal (xs.drop half)
termination_by xs.length
decreasing_by
  · simp only [List.length_take]; omega
  · simp only [List.length_drop]; omega

end Binary

/-- Binary floating point. A written number becomes the nearest binary number, and a batch is
added up in blocks. -/
instance : Amount Float where
  decidableLT := inferInstance
  decidableLE := inferInstance
  natCast n := Float.ofNat n
  ofDecimal d := Float.ofScientific d.digits true d.places
  batchTotal xs := Binary.blockTotal xs + 0
  numeral x := Binary.decode x.toBits

end Catchment
