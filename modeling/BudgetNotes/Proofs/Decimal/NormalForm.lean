import BudgetNotes.Money
import Mathlib.Algebra.Group.Nat.Defs

/-!
# Every number has one normal form

A decimal in normal form has no zero at the end of its places, and no sign if
it is zero. Two such decimals with the same number are the same, because the
one with more places would end with a zero.

Main statements: `normalize_eq_iff` (normal forms agree exactly when the
numbers do), and `units_of_toInt?` with its converse `toInt?_of_units` (the
integer of a decimal is its number).
-/

namespace BudgetNotes.Decimal

theorem units_eq (x : Decimal) :
    x.units = if x.negative then -((x.mantissa * 10 ^ (maxScale - x.scale) : Nat) : Int)
      else ((x.mantissa * 10 ^ (maxScale - x.scale) : Nat) : Int) := rfl

theorem toInt?_eq (x : Decimal) :
    x.toInt? = if x.mantissa % 10 ^ x.scale = 0 then
        some (if x.negative then -((x.mantissa / 10 ^ x.scale : Nat) : Int)
          else ((x.mantissa / 10 ^ x.scale : Nat) : Int))
      else none := rfl

/-! ## The normal form is the same number -/

/-- Stripping zeros keeps the quotient: the mantissa shrinks by a power of ten for each place. -/
theorem stripZeros_mul_pow (m s : Nat) :
    (stripZeros m s).1 * 10 ^ (s - (stripZeros m s).2) = m := by
  induction s generalizing m with
  | zero => simp [stripZeros]
  | succ s ih =>
    rw [stripZeros]
    split
    next h =>
      have hle := (stripZeros_le (m / 10) s).2
      rw [show s + 1 - (stripZeros (m / 10) s).2 = (s - (stripZeros (m / 10) s).2) + 1 by omega,
        Nat.pow_succ, ← Nat.mul_assoc, ih]
      omega
    next => simp

/-- Normalizing keeps the number. -/
theorem units_normalize (x : Decimal) : x.normalize.units = x.units := by
  have hmul := stripZeros_mul_pow x.mantissa x.scale
  have hle := (stripZeros_le x.mantissa x.scale).2
  have hs := x.scale_le
  have hsize : (stripZeros x.mantissa x.scale).1 *
      10 ^ (28 - (stripZeros x.mantissa x.scale).2) = x.mantissa * 10 ^ (28 - x.scale) := by
    rw [show 28 - (stripZeros x.mantissa x.scale).2 =
        (x.scale - (stripZeros x.mantissa x.scale).2) + (28 - x.scale) by omega,
      Nat.pow_add, ← Nat.mul_assoc, hmul]
  simp only [units_eq, normalize, maxScale, hsize]
  by_cases h0 : x.mantissa = 0
  · simp [h0]
  · simp [h0]

/-! ## No other normal form is -/

/-- A decimal without needless places or sign. -/
structure IsNormal (x : Decimal) : Prop where
  reduced : x.scale = 0 ∨ x.mantissa % 10 ≠ 0
  signed : x.negative = true → x.mantissa ≠ 0

theorem stripZeros_reduced (m s : Nat) : (stripZeros m s).2 = 0 ∨ (stripZeros m s).1 % 10 ≠ 0 := by
  induction s generalizing m with
  | zero => exact Or.inl rfl
  | succ s ih =>
    rw [stripZeros]
    split
    next => exact ih (m / 10)
    next h => exact Or.inr h

theorem isNormal_normalize (x : Decimal) : IsNormal x.normalize := by
  refine ⟨stripZeros_reduced x.mantissa x.scale, fun hsigned => ?_⟩
  have hsign : (x.negative && x.mantissa != 0) = true := hsigned
  rw [Bool.and_eq_true, bne_iff_ne] at hsign
  show (stripZeros x.mantissa x.scale).1 ≠ 0
  intro hzero
  have hmul := stripZeros_mul_pow x.mantissa x.scale
  rw [hzero, Nat.zero_mul] at hmul
  exact hsign.2 hmul.symm

/-- Of two reduced sizes that are equal, neither has more places. -/
theorem eq_of_size_eq {m m' s s' : Nat} (hle : s ≤ s') (hs' : s' ≤ maxScale)
    (hreduced : s' = 0 ∨ m' % 10 ≠ 0)
    (h : m * 10 ^ (maxScale - s) = m' * 10 ^ (maxScale - s')) : m = m' ∧ s = s' := by
  have hsplit : maxScale - s = (s' - s) + (maxScale - s') := by omega
  rw [hsplit, Nat.pow_add, ← Nat.mul_assoc] at h
  have hm : m * 10 ^ (s' - s) = m' := Nat.eq_of_mul_eq_mul_right (Nat.pow_pos (by decide)) h
  rcases Nat.eq_or_lt_of_le hle with rfl | hlt
  · rw [Nat.sub_self, Nat.pow_zero, Nat.mul_one] at hm
    exact ⟨hm, rfl⟩
  · -- the places that are too many would be zeros
    exfalso
    obtain ⟨k, hk⟩ : ∃ k, s' - s = k + 1 := ⟨s' - s - 1, by omega⟩
    rw [hk, Nat.pow_succ, ← Nat.mul_assoc] at hm
    rcases hreduced with hzero | hmod
    · omega
    · exact hmod (by rw [← hm, Nat.mul_mod_left])

/-- The size of a number, in units. -/
theorem natAbs_units (x : Decimal) :
    x.units.natAbs = x.mantissa * 10 ^ (maxScale - x.scale) := by
  rw [units_eq]
  split
  next => rw [Int.natAbs_neg, Int.natAbs_natCast]
  next => rw [Int.natAbs_natCast]

/-- The sign of a number that is not zero is seen in its units. -/
theorem negative_iff_units_neg {x : Decimal} (h : x.mantissa ≠ 0) :
    x.negative = true ↔ x.units < 0 := by
  have hpos : 0 < x.mantissa * 10 ^ (maxScale - x.scale) :=
    Nat.mul_pos (Nat.pos_of_ne_zero h) (Nat.pow_pos (by decide))
  rw [units_eq]
  generalize x.mantissa * 10 ^ (maxScale - x.scale) = size at hpos ⊢
  cases x.negative with
  | true =>
    rw [if_pos rfl]
    exact iff_of_true rfl (by omega)
  | false =>
    rw [if_neg Bool.false_ne_true]
    exact iff_of_false Bool.false_ne_true (by omega)

/-- Normal forms of the same number are the same. -/
theorem IsNormal.eq_of_units {x y : Decimal} (hx : IsNormal x) (hy : IsNormal y)
    (h : x.units = y.units) : x = y := by
  have hsize : x.mantissa * 10 ^ (maxScale - x.scale) =
      y.mantissa * 10 ^ (maxScale - y.scale) := by
    rw [← natAbs_units, ← natAbs_units, h]
  obtain ⟨hmantissa, hscale⟩ : x.mantissa = y.mantissa ∧ x.scale = y.scale := by
    rcases Nat.le_total x.scale y.scale with hle | hle
    · exact eq_of_size_eq hle y.scale_le hy.reduced hsize
    · obtain ⟨hm, hs⟩ := eq_of_size_eq hle x.scale_le hx.reduced hsize.symm
      exact ⟨hm.symm, hs.symm⟩
  have hnegative : x.negative = y.negative := by
    rw [Bool.eq_iff_iff]
    by_cases hzero : x.mantissa = 0
    · -- neither zero has a sign
      constructor
      · intro hneg
        exact absurd hzero (hx.signed hneg)
      · intro hneg
        exact absurd (hmantissa ▸ hzero) (hy.signed hneg)
    · -- and of other numbers, the units have the sign
      rw [negative_iff_units_neg hzero, negative_iff_units_neg (hmantissa ▸ hzero), h]
  cases x
  cases y
  subst hnegative hmantissa hscale
  rfl

/-- **Normal forms agree exactly when the numbers do.** -/
theorem normalize_eq_iff (x y : Decimal) : x.normalize = y.normalize ↔ Equiv x y := by
  unfold Equiv
  constructor
  · intro h
    rw [← units_normalize x, h, units_normalize]
  · intro h
    refine (isNormal_normalize x).eq_of_units (isNormal_normalize y) ?_
    rw [units_normalize, units_normalize, h]

@[simp] theorem normalize_normalize (x : Decimal) : x.normalize.normalize = x.normalize :=
  (normalize_eq_iff _ _).mpr (units_normalize x)

/-! ## Integers -/

/-- A whole in units: its own places, and those that are left up to the last. -/
theorem pow_scale_mul (x : Decimal) :
    10 ^ x.scale * 10 ^ (maxScale - x.scale) = 10 ^ maxScale := by
  have hsum : x.scale + (maxScale - x.scale) = maxScale := Nat.add_sub_cancel' x.scale_le
  rw [← Nat.pow_add, hsum]

/-- An integer that a decimal stands for is its number. -/
theorem units_of_toInt? {x : Decimal} {n : Int} (h : x.toInt? = some n) :
    x.units = n * (10 ^ maxScale : Nat) := by
  rw [toInt?_eq] at h
  split at h
  next hmod =>
    -- the mantissa is so many wholes
    have hsize : x.mantissa * 10 ^ (maxScale - x.scale) =
        x.mantissa / 10 ^ x.scale * 10 ^ maxScale := by
      rw [← x.pow_scale_mul, ← Nat.mul_assoc, Nat.div_mul_cancel (Nat.dvd_of_mod_eq_zero hmod)]
    have hn := Option.some.inj h
    rw [units_eq, hsize, ← hn]
    cases x.negative with
    | true =>
      rw [if_pos rfl, if_pos rfl, Int.natCast_mul, Int.neg_mul]
    | false =>
      rw [if_neg Bool.false_ne_true, if_neg Bool.false_ne_true, Int.natCast_mul]
  next => cases h

/-- A number that is an integer is found to be one. -/
theorem toInt?_of_units {x : Decimal} {n : Int} (h : x.units = n * (10 ^ maxScale : Nat)) :
    x.toInt? = some n := by
  have hmantissa : x.mantissa = n.natAbs * 10 ^ x.scale := by
    have hsize := x.natAbs_units
    rw [h, Int.natAbs_mul, Int.natAbs_natCast, ← x.pow_scale_mul, ← Nat.mul_assoc] at hsize
    exact (Nat.eq_of_mul_eq_mul_right (Nat.pow_pos (by decide)) hsize).symm
  have hmod : x.mantissa % 10 ^ x.scale = 0 := by rw [hmantissa, Nat.mul_mod_left]
  have hdiv : x.mantissa / 10 ^ x.scale = n.natAbs := by
    rw [hmantissa, Nat.mul_div_cancel _ (Nat.pow_pos (by decide))]
  have hpos : (0 : Int) < (10 ^ maxScale : Nat) := Int.natCast_pos.mpr (Nat.pow_pos (by decide))
  rw [toInt?_eq, if_pos hmod, hdiv]
  refine congrArg some ?_
  by_cases hzero : x.mantissa = 0
  · -- a zero may have either sign
    have hn : n.natAbs = 0 := by
      rw [← hdiv, hzero, Nat.zero_div]
    split <;> omega
  · have hsign : x.negative = true ↔ n < 0 := by
      rw [negative_iff_units_neg hzero, h]
      constructor
      · intro hneg
        by_cases hn : n < 0
        · exact hn
        · have := Int.mul_nonneg (Int.not_lt.mp hn) (Int.le_of_lt hpos)
          omega
      · intro hn
        exact Int.mul_neg_of_neg_of_pos hn hpos
    split
    next hneg =>
      have := hsign.mp hneg
      omega
    next hneg =>
      have : ¬n < 0 := fun hn => hneg (hsign.mpr hn)
      omega

end BudgetNotes.Decimal
