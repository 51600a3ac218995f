import Mathlib.Algebra.BigOperators.Ring.List
import Mathlib.Algebra.Order.BigOperators.Group.List
import Mathlib.Algebra.Order.Field.Rat
import Mathlib.Tactic.Linarith
import Mathlib.Tactic.Positivity
import Mathlib.Tactic.Ring
import Catchment.Amount.Exact

/-!
# `Catchment.Proofs.Exact`: the arithmetic of water, without rounding

In the rationals, and in any ordered field, every operation of `Amount` is a familiar
one: the larger of two amounts is their maximum, and both ways of adding up are the sum
of a list. The theorems below say so, and are what the laws of the library start from.
Most laws are about the rationals, which can be written down. The daily share of a long
outflow is no rational number, so what depends on its value is told in any ordered field.

* `Amount.Exact`, `Amount.ofField`: an ordered field, as a type of amounts.
* `total_eq_sum`, `batchTotal_eq_sum`: both ways of adding up are the sum.
* `larger_eq_max`, `smaller_eq_min`: the order is total.
* `ofDecimal_nonneg`: no written number is below nought.
* `sum_map_sum_comm`: a sum of sums, in the other order.
* `sum_map_filter`: a sum may leave out what adds nothing.
-/

set_option autoImplicit false

namespace Catchment

namespace Amount

/-- What is to be known of an ordered field, besides its operations, if its elements are to be
amounts: which of them written numbers stand for, and how they are written. Where they are
rational numbers, it is as in the rationals. -/
class Exact (K : Type) [Field K] where
  ofDecimal : Decimal → K
  numeral : K → Numeral
  ofDecimal_eq (d : Decimal) : ofDecimal d = ((Amount.ofDecimal d : Rat) : K)
  numeral_cast (q : Rat) : numeral (q : K) = Amount.numeral q

/-- An ordered field, with its own operations. A batch is added up as it comes. -/
instance (priority := low) ofField (K : Type) [Field K] [LinearOrder K] [Exact K] : Amount K where
  decidableLT := inferInstance
  decidableLE := inferInstance
  toBEq := instBEqOfDecidableEq
  ofDecimal := Exact.ofDecimal
  batchTotal xs := xs.foldl (· + ·) 0
  numeral := Exact.numeral

instance : Exact Rat where
  ofDecimal := Amount.ofDecimal
  numeral := Amount.numeral
  ofDecimal_eq d := (Rat.cast_id _).symm
  numeral_cast q := by rw [Rat.cast_id]

/-- The amounts that are rational numbers are those of the field of rational numbers. -/
example : (inferInstance : Amount Rat) = ofField Rat := rfl

section

variable {K : Type} [Field K] [LinearOrder K] [Exact K]

/-- The nought that rules are written with is the nought of the field. -/
theorem zero_eq : (@OfNat.ofNat K 0 (instOfNat 0)) = 0 := Nat.cast_zero

/-- The one that rules are written with is the one of the field. -/
theorem one_eq : (@OfNat.ofNat K 1 (instOfNat 1)) = 1 := Nat.cast_one

/-- Adding up from some amount on is that amount and the sum. -/
private theorem foldl_add_eq (xs : List K) (a : K) :
    xs.foldl (· + ·) a = a + xs.sum := by
  induction xs generalizing a with
  | nil => simp
  | cons x xs ih =>
    rw [List.foldl_cons, ih, List.sum_cons]
    ring

/-- Adding up as it comes gives the sum. -/
@[simp]
theorem total_eq_sum (xs : List K) : total xs = xs.sum := by
  rw [total, zero_eq]
  exact (foldl_add_eq xs 0).trans (zero_add _)

/-- Adding up as a batch gives the sum. -/
@[simp]
theorem batchTotal_eq_sum (xs : List K) : batchTotal xs = xs.sum := by
  show xs.foldl (· + ·) (0 : K) = xs.sum
  rw [foldl_add_eq, zero_add]

/-- The larger of two amounts is their maximum. -/
@[simp]
theorem larger_eq_max (a b : K) : larger a b = max a b := by
  unfold larger
  rcases lt_or_ge a b with h | h
  · rw [if_pos h, max_eq_right h.le]
  · rw [if_neg (not_lt.mpr h), max_eq_left h]

/-- The smaller of two amounts is their minimum. -/
@[simp]
theorem smaller_eq_min (a b : K) : smaller a b = min a b := by
  unfold smaller
  rcases lt_or_ge b a with h | h
  · rw [if_pos h, min_eq_right h.le]
  · rw [if_neg (not_lt.mpr h), min_eq_left h]

end

/-- No written number is below nought. -/
theorem ofDecimal_nonneg {K : Type} [Field K] [LinearOrder K] [IsStrictOrderedRing K] [Exact K]
    (d : Decimal) : (0 : K) ≤ ofDecimal d := by
  have hrat : (0 : Rat) ≤ ofDecimal d := by
    show (0 : Rat) ≤ mkRat d.digits (Nat.pow 10 d.places)
    rw [Rat.mkRat_eq_div]
    positivity
  show (0 : K) ≤ Exact.ofDecimal d
  rw [Exact.ofDecimal_eq]
  exact Rat.cast_nonneg.mpr hrat

end Amount

/-! ### Sums of lists -/

variable {ι κ : Type}

/-- A sum of sums is the same if the inner sum is taken first. -/
theorem sum_map_sum_comm (xs : List ι) (ys : List κ) (f : ι → κ → Rat) :
    (xs.map fun x => (ys.map fun y => f x y).sum).sum
      = (ys.map fun y => (xs.map fun x => f x y).sum).sum := by
  induction xs with
  | nil => simp
  | cons x xs ih => simp only [List.map_cons, List.sum_cons, ih, List.sum_map_add]

/-- A sum over parts that are put together, part by part. -/
theorem sum_map_flatMap (xs : List ι) (f : ι → List κ) (g : κ → Rat) :
    ((xs.flatMap f).map g).sum = (xs.map fun x => ((f x).map g).sum).sum := by
  induction xs with
  | nil => rfl
  | cons x xs ih => simp [ih]

/-- A sum over those that have something, as a sum over all. -/
theorem sum_map_filterMap {K : Type} [Field K] (xs : List ι) (f : ι → Option κ) (g : κ → K) :
    ((xs.filterMap f).map g).sum = (xs.map fun x => ((f x).map g).getD 0).sum := by
  induction xs with
  | nil => rfl
  | cons x xs ih => cases h : f x <;> simp [h, ih]

/-- A sum may leave out what adds nothing. -/
theorem sum_map_filter {xs : List ι} {p : ι → Bool} {f g : ι → Rat}
    (hin : ∀ x ∈ xs, p x = true → f x = g x) (hout : ∀ x ∈ xs, p x = false → f x = 0) :
    (xs.map f).sum = ((xs.filter p).map g).sum := by
  induction xs with
  | nil => rfl
  | cons x xs ih =>
    have hrest := ih (fun y hy => hin y (List.mem_cons_of_mem _ hy))
      fun y hy => hout y (List.mem_cons_of_mem _ hy)
    rw [List.map_cons, List.sum_cons, hrest, List.filter_cons]
    cases hp : p x with
    | true =>
      rw [if_pos rfl, List.map_cons, List.sum_cons, hin x List.mem_cons_self hp]
    | false =>
      rw [if_neg Bool.false_ne_true, hout x List.mem_cons_self hp, zero_add]

/-- A sum of which no part is below nought is not below nought. -/
theorem sum_map_nonneg {xs : List ι} {f : ι → Rat} (h : ∀ x ∈ xs, 0 ≤ f x) :
    0 ≤ (xs.map f).sum := by
  apply List.sum_nonneg
  intro y hy
  obtain ⟨x, hx, rfl⟩ := List.mem_map.mp hy
  exact h x hx

/-- A sum of which no part is below nought is above nought if one of its parts is. -/
theorem sum_map_pos {xs : List ι} {f : ι → Rat} (h : ∀ x ∈ xs, 0 ≤ f x) {x : ι} (hx : x ∈ xs)
    (hpos : 0 < f x) : 0 < (xs.map f).sum := by
  refine lt_of_lt_of_le hpos (List.single_le_sum ?_ _ (List.mem_map_of_mem hx))
  intro y hy
  obtain ⟨z, hz, rfl⟩ := List.mem_map.mp hy
  exact h z hz

/-- A sum above nought has a part above nought. -/
theorem exists_pos_of_sum_pos {xs : List Rat} (h : 0 < xs.sum) : ∃ x ∈ xs, 0 < x := by
  have hlt : (xs.map fun _ => (0 : Rat)).sum < (xs.map fun x => x).sum := by simpa using h
  exact List.exists_lt_of_sum_lt _ _ hlt

end Catchment
