import BudgetNotes.Proofs.Decimal.NormalForm
import Mathlib.Algebra.Order.Field.Basic
import Mathlib.Algebra.Order.Ring.Abs
import Mathlib.Algebra.Order.Ring.Rat
import Mathlib.Data.Int.Cast.Lemmas
import Mathlib.Tactic.Linarith

/-!
# The number of a decimal

A decimal stands for a rational number, and several decimals for the same one.
What is checked of a decimal is a property of its number: whether it needs more
than two places, and whether it is an integer.

Main statements: `equiv_iff_value_eq`, `Money.fits_iff_isCents` and
`toInt?_eq_some_iff`.
-/

namespace BudgetNotes

theorem cast_pow_ne_zero (n : Nat) : ((10 ^ n : Nat) : ℚ) ≠ 0 :=
  Nat.cast_ne_zero.mpr (Nat.ne_of_gt (Nat.pow_pos (by decide)))

/-- The number of a sign, a size and a count of decimal places. -/
def signedRatio (negative : Bool) (size places : Nat) : ℚ :=
  (if negative then -1 else 1) * ((size : ℚ) / (10 ^ places : Nat))

theorem abs_signedRatio (negative : Bool) (size places : Nat) :
    |signedRatio negative size places| = (size : ℚ) / (10 ^ places : Nat) := by
  have hnonneg : (0 : ℚ) ≤ (size : ℚ) / (10 ^ places : Nat) :=
    div_nonneg (Nat.cast_nonneg _) (Nat.cast_nonneg _)
  unfold signedRatio
  split
  next => rw [neg_one_mul, abs_neg, abs_of_nonneg hnonneg]
  next => rw [one_mul, abs_of_nonneg hnonneg]

theorem signedRatio_of_size_zero (negative : Bool) (places : Nat) :
    signedRatio negative 0 places = 0 := by
  unfold signedRatio
  rw [Nat.cast_zero, zero_div, mul_zero]

/-- Numbers of equal size and sign are the same; zero may have either sign. -/
theorem signedRatio_eq_iff {b b' : Bool} {m m' s s' : Nat} :
    signedRatio b m s = signedRatio b' m' s' ↔
      m * 10 ^ s' = m' * 10 ^ s ∧ (m ≠ 0 → b = b') := by
  have hsizes : (m : ℚ) / (10 ^ s : Nat) = (m' : ℚ) / (10 ^ s' : Nat) ↔
      m * 10 ^ s' = m' * 10 ^ s := by
    rw [div_eq_div_iff (cast_pow_ne_zero s) (cast_pow_ne_zero s')]
    exact_mod_cast Iff.rfl
  constructor
  · intro h
    have hsize := congrArg abs h
    rw [abs_signedRatio, abs_signedRatio] at hsize
    refine ⟨hsizes.mp hsize, fun hm => ?_⟩
    have hpos : (0 : ℚ) < (m : ℚ) / (10 ^ s : Nat) :=
      div_pos (Nat.cast_pos.mpr (Nat.pos_of_ne_zero hm))
        (Nat.cast_pos.mpr (Nat.pow_pos (by decide)))
    unfold signedRatio at h
    rw [← hsize] at h
    generalize (m : ℚ) / (10 ^ s : Nat) = size at h hpos
    by_contra hne
    cases b with
    | false =>
      rw [Bool.eq_true_of_not_eq_false fun h => hne h.symm, if_pos rfl,
        if_neg Bool.false_ne_true] at h
      linarith
    | true =>
      rw [Bool.eq_false_of_not_eq_true fun h => hne h.symm, if_pos rfl,
        if_neg Bool.false_ne_true] at h
      linarith
  · rintro ⟨hsize, hsign⟩
    by_cases hm : m = 0
    · have hm' : m' = 0 := by
        rw [hm, Nat.zero_mul] at hsize
        exact (Nat.mul_eq_zero.mp hsize.symm).resolve_right (Nat.ne_of_gt (Nat.pow_pos (by decide)))
      rw [hm, hm', signedRatio_of_size_zero, signedRatio_of_size_zero]
    · unfold signedRatio
      rw [hsign hm, hsizes.mpr hsize]

namespace Decimal

/-- The rational number that a decimal stands for. -/
def value (x : Decimal) : ℚ := signedRatio x.negative x.mantissa x.scale

/-- Whether some decimal is the number: 28 places and 96 bits are enough for it. -/
def CanHold (v : ℚ) : Prop := ∃ x : Decimal, x.value = v

theorem abs_value (x : Decimal) : |x.value| = (x.mantissa : ℚ) / (10 ^ x.scale : Nat) :=
  abs_signedRatio ..

/-- The units count a number's parts of 10^-28. -/
theorem value_eq_units_div (x : Decimal) : x.value = (x.units : ℚ) / (10 ^ maxScale : Nat) := by
  have hsum : x.scale + (maxScale - x.scale) = maxScale := Nat.add_sub_cancel' x.scale_le
  have hsize : (x.mantissa : ℚ) / (10 ^ x.scale : Nat) =
      ((x.mantissa * 10 ^ (maxScale - x.scale) : Nat) : ℚ) / (10 ^ maxScale : Nat) := by
    rw [← hsum, Nat.pow_add, hsum, Nat.cast_mul, Nat.cast_mul,
      mul_div_mul_right _ _ (cast_pow_ne_zero _)]
  unfold value signedRatio
  rw [units_eq, hsize]
  cases x.negative with
  | true =>
    rw [if_pos rfl, if_pos rfl, Int.cast_neg, Int.cast_natCast, neg_one_mul, neg_div]
  | false =>
    rw [if_neg Bool.false_ne_true, if_neg Bool.false_ne_true, Int.cast_natCast, one_mul]

theorem equiv_iff_value_eq (x y : Decimal) : Equiv x y ↔ x.value = y.value := by
  unfold Equiv
  rw [value_eq_units_div, value_eq_units_div, div_left_inj' (cast_pow_ne_zero _), Int.cast_inj]

theorem value_normalize (x : Decimal) : x.normalize.value = x.value :=
  (equiv_iff_value_eq _ _).mp (units_normalize x)

/-- A decimal is an integer exactly when its number is. -/
theorem toInt?_eq_some_iff {x : Decimal} {n : Int} : x.toInt? = some n ↔ x.value = n := by
  have hunits : x.value = n ↔ x.units = n * (10 ^ maxScale : Nat) := by
    rw [value_eq_units_div, div_eq_iff (cast_pow_ne_zero _)]
    exact_mod_cast Iff.rfl
  rw [hunits]
  exact ⟨units_of_toInt?, toInt?_of_units⟩

end Decimal

namespace Money

open Decimal

/-- Whether a number is so many whole cents. -/
def IsCents (v : ℚ) : Prop := ∃ cents : ℤ, v * 100 = cents

/-- Two places are enough exactly for whole cents. -/
theorem fits_iff_isCents (x : Decimal) : Fits x ↔ IsCents x.value := by
  have hreduced := (isNormal_normalize x).reduced
  unfold Fits IsCents
  rw [← value_normalize x]
  generalize x.normalize = y at hreduced
  constructor
  · intro hscale
    -- the places that are left of the two are zeros
    have hhundred : (100 : ℚ) = (10 ^ (2 - y.scale) : Nat) * (10 ^ y.scale : Nat) := by
      rw [← Nat.cast_mul, ← Nat.pow_add, Nat.sub_add_cancel hscale]
      rfl
    have hcents : (y.mantissa : ℚ) / (10 ^ y.scale : Nat) * 100 =
        (y.mantissa * 10 ^ (2 - y.scale) : Nat) := by
      rw [hhundred, div_mul_eq_mul_div, ← mul_assoc, mul_div_cancel_right₀ _ (cast_pow_ne_zero _),
        Nat.cast_mul]
    refine ⟨(if y.negative then -1 else 1) * (y.mantissa * 10 ^ (2 - y.scale) : Nat), ?_⟩
    unfold value signedRatio
    rw [mul_assoc, hcents]
    push_cast
    rfl
  · rintro ⟨cents, hcents⟩
    rw [← Nat.not_lt]
    intro hscale
    -- with a third place the mantissa would end with a zero
    have hpos : (0 : ℚ) < 100 := by decide
    have habs : (y.mantissa : ℚ) / (10 ^ y.scale : Nat) * 100 = (cents.natAbs : Nat) := by
      rw [← abs_value, Nat.cast_natAbs, Int.cast_abs, ← hcents, abs_mul, abs_of_pos hpos]
    rw [div_mul_eq_mul_div, div_eq_iff (cast_pow_ne_zero _)] at habs
    have hsize : y.mantissa * 100 = cents.natAbs * 10 ^ y.scale := by exact_mod_cast habs
    obtain ⟨k, hk⟩ : ∃ k, y.scale = k + 3 := ⟨y.scale - 3, by omega⟩
    have hmantissa : y.mantissa = cents.natAbs * 10 ^ k * 10 := by
      have hpow : 10 ^ y.scale = 10 ^ k * 10 * 100 := by
        rw [hk, Nat.pow_succ, Nat.pow_succ, Nat.pow_succ]
        omega
      rw [hpow, ← Nat.mul_assoc] at hsize
      have := Nat.eq_of_mul_eq_mul_right (by decide) hsize
      rw [this, Nat.mul_assoc]
    rcases hreduced with hzero | hmod
    · omega
    · exact hmod (by rw [hmantissa, Nat.mul_mod_left])

end Money

end BudgetNotes
