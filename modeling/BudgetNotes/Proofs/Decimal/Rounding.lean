import BudgetNotes.Proofs.Decimal.Text
import BudgetNotes.Proofs.Decimal.Value
import Mathlib.Algebra.Order.Round
import Mathlib.Data.Rat.Floor
import Mathlib.Tactic.Ring

/-!
# How typed numbers are rounded

A number is typed with any count of digits, but a decimal has room for 28
places and 96 bits only. The reader takes digits as long as they fit. The first
place that does not fit rounds the number, a half up, and whatever comes after
it has no effect. So what is read is always the number rounded at the last
place of the result.

> `rest_eq_zero`: if a decimal is the number, what does not fit are zeros.

Main statements: `rounds_of_readPlaces` and `exists_readPlaces`.
-/

namespace BudgetNotes

namespace Decimal

/-! ## Rounding a size -/

/-- A decimal whose size is that of `size` with `places` decimal places. -/
def HasSize (size places : Nat) (x : Decimal) : Prop :=
  x.mantissa * 10 ^ places = size * 10 ^ x.scale

/-- The decimal is `size` with `places` decimal places, rounded at its own last place. It is not
rounded at all if there is a decimal of that size. -/
structure Rounds (size places : Nat) (x : Decimal) : Prop where
  scale_le : x.scale ≤ places
  mantissa : x.mantissa = roundOff size (places - x.scale)
  exact_of_hasSize : ∀ y : Decimal, HasSize size places y → HasSize size places x

theorem roundOff_eq (size places : Nat) :
    roundOff size places = (size + 10 ^ places / 2) / 10 ^ places := rfl

theorem rounds_self {size places : Nat} {x : Decimal} (hmantissa : x.mantissa = size)
    (hscale : x.scale = places) : Rounds size places x := by
  refine ⟨Nat.le_of_eq hscale, ?_, fun y _ => ?_⟩
  · rw [hscale, Nat.sub_self, roundOff_eq, Nat.pow_zero, Nat.div_one, hmantissa]
    rfl
  · unfold HasSize
    rw [hmantissa, hscale]

/-- A half is rounded up. -/
theorem roundOff_eq_round (size places : Nat) :
    (roundOff size places : ℤ) = round ((size : ℚ) / (10 ^ places : Nat)) := by
  cases places with
  | zero =>
    have hself : roundOff size 0 = size := by
      rw [roundOff_eq, Nat.pow_zero, Nat.div_one]
      rfl
    rw [hself, Nat.pow_zero, Nat.cast_one, div_one, round_natCast]
  | succ places =>
    have hhalf : 10 ^ (places + 1) = 2 * (10 ^ (places + 1) / 2) := by
      rw [Nat.pow_succ]
      omega
    have hcast : ((10 ^ (places + 1) / 2 : Nat) : ℚ) / (10 ^ (places + 1) : Nat) = 1 / 2 := by
      rw [div_eq_div_iff (cast_pow_ne_zero _) two_ne_zero, one_mul]
      exact_mod_cast (Nat.mul_comm ..).trans hhalf.symm
    rw [roundOff_eq, round_eq, ← hcast, ← add_div, ← Nat.cast_add, Rat.floor_natCast_div_natCast]
    rfl

/-- Rounding off a digit and all that follow it. -/
theorem roundOff_digits {m d r places : Nat} (hr : r < 10 ^ places) :
    roundOff ((m * 10 + d) * 10 ^ places + r) (places + 1) = (m * 10 + d + 5) / 10 := by
  have hhalf : 10 ^ (places + 1) / 2 = 5 * 10 ^ places := by
    rw [Nat.pow_succ]
    omega
  have hsum : (m * 10 + d) * 10 ^ places + r + 5 * 10 ^ places =
      r + (m * 10 + d + 5) * 10 ^ places := by
    rw [Nat.add_mul (m * 10 + d) 5]
    omega
  rw [roundOff_eq, hhalf, hsum, Nat.pow_succ, ← Nat.div_div_eq_div_mul,
    Nat.add_mul_div_right _ _ (Nat.pow_pos (by decide)), Nat.div_eq_of_lt hr, Nat.zero_add]

/-- Rounding off one place more. -/
theorem roundOff_digits_succ {m d r places : Nat} (hd : d < 10) (hr : r < 10 ^ places) :
    roundOff ((m * 10 + d) * 10 ^ places + r) (places + 2) = (m + 5) / 10 := by
  have hrest : d * 10 ^ places + r < 10 ^ (places + 1) := by
    have hle : d * 10 ^ places ≤ 9 * 10 ^ places := Nat.mul_le_mul_right _ (by omega)
    rw [Nat.pow_succ]
    omega
  have hsplit : (m * 10 + d) * 10 ^ places + r =
      (m / 10 * 10 + m % 10) * 10 ^ (places + 1) + (d * 10 ^ places + r) := by
    rw [Nat.div_add_mod', Nat.pow_succ, Nat.add_mul]
    rw [Nat.mul_assoc, Nat.mul_comm 10]
    omega
  rw [hsplit, roundOff_digits hrest]
  omega

/-! ## One digit -/

theorem appendDigit?_eq_some {x y : Decimal} {d : Nat} (h : x.appendDigit? d = some y) :
    y.negative = x.negative ∧ y.mantissa = x.mantissa * 10 + d ∧ y.scale = x.scale := by
  unfold appendDigit? at h
  split at h
  next =>
    cases h
    exact ⟨rfl, rfl, rfl⟩
  next => cases h

theorem appendPlace?_eq_some {x y : Decimal} {d : Nat} (h : x.appendPlace? d = some y) :
    y.negative = x.negative ∧ y.mantissa = x.mantissa * 10 + d ∧ y.scale = x.scale + 1 := by
  unfold appendPlace? at h
  split at h
  next =>
    cases h
    exact ⟨rfl, rfl, rfl⟩
  next => cases h

theorem appendPlace?_eq_none {x : Decimal} {d : Nat} (h : x.appendPlace? d = none) :
    maxMantissa < x.mantissa * 10 + d ∨ x.scale = maxScale := by
  unfold appendPlace? at h
  split at h
  next => cases h
  next hfull =>
    have hle : x.scale ≤ maxScale := x.scale_le
    omega

/-- A place that does not fit is rounded: the mantissa stays, or is one more, or gives up a place
when it is already the largest. -/
theorem roundAt?_cases {x y : Decimal} {d : Nat} (h : x.roundAt? d = some y) :
    y.negative = x.negative ∧
      ((d < 5 ∧ y.mantissa = x.mantissa ∧ y.scale = x.scale) ∨
        (5 ≤ d ∧ y.mantissa = x.mantissa + 1 ∧ y.scale = x.scale) ∨
        (5 ≤ d ∧ y.mantissa = (x.mantissa + 5) / 10 ∧ y.scale + 1 = x.scale)) := by
  unfold roundAt? at h
  split at h
  next hd =>
    cases h
    exact ⟨rfl, Or.inl ⟨hd, rfl, rfl⟩⟩
  next hd =>
    have hd : 5 ≤ d := Nat.not_lt.mp hd
    split at h
    next =>
      cases h
      exact ⟨rfl, Or.inr (Or.inl ⟨hd, rfl, rfl⟩)⟩
    next =>
      split at h
      next => cases h
      next hscale =>
        cases h
        exact ⟨rfl, Or.inr (Or.inr ⟨hd, rfl, Nat.succ_pred_eq_of_ne_zero hscale⟩)⟩

/-- Where a place did not fit, a decimal of the same size has only zeros from that place on. -/
theorem rest_eq_zero {x y : Decimal} {d r places : Nat} (hd : d < 10) (hr : r < 10 ^ places)
    (hfull : maxMantissa < x.mantissa * 10 + d ∨ x.scale = maxScale)
    (hy : HasSize ((x.mantissa * 10 + d) * 10 ^ places + r) (x.scale + (places + 1)) y) :
    d = 0 ∧ r = 0 := by
  unfold HasSize at hy
  rcases Nat.lt_or_ge x.scale y.scale with hlt | hle
  · -- more places than `x` has: then its mantissa is at least the one that did not fit
    exfalso
    have hyscale : y.scale ≤ maxScale := y.scale_le
    have hymantissa : y.mantissa ≤ maxMantissa := y.mantissa_le
    have hbig : y.mantissa < x.mantissa * 10 + d := by omega
    have hplaces : 10 ^ (x.scale + (places + 1)) ≤ 10 ^ places * 10 ^ y.scale := by
      rw [← Nat.pow_add]
      exact Nat.pow_le_pow_right (by decide) (by omega)
    have hpos : 0 < 10 ^ (x.scale + (places + 1)) := Nat.pow_pos (by decide)
    have hless : y.mantissa * 10 ^ (x.scale + (places + 1)) <
        ((x.mantissa * 10 + d) * 10 ^ places + r) * 10 ^ y.scale :=
      calc y.mantissa * 10 ^ (x.scale + (places + 1))
        _ < (x.mantissa * 10 + d) * 10 ^ (x.scale + (places + 1)) :=
          Nat.mul_lt_mul_of_pos_right hbig hpos
        _ ≤ (x.mantissa * 10 + d) * (10 ^ places * 10 ^ y.scale) :=
          Nat.mul_le_mul_left _ hplaces
        _ = (x.mantissa * 10 + d) * 10 ^ places * 10 ^ y.scale := (Nat.mul_assoc ..).symm
        _ ≤ ((x.mantissa * 10 + d) * 10 ^ places + r) * 10 ^ y.scale :=
          Nat.mul_le_mul_right _ (Nat.le_add_right ..)
    omega
  · -- as many places as `x` has or fewer: then the size is a multiple of the power left out
    have hsplit : x.scale + (places + 1) = (x.scale - y.scale) + (places + 1) + y.scale := by omega
    rw [hsplit, Nat.pow_add, Nat.pow_add, ← Nat.mul_assoc, ← Nat.mul_assoc] at hy
    have hsize := Nat.eq_of_mul_eq_mul_right (Nat.pow_pos (by decide)) hy
    have hrest : d * 10 ^ places + r < 10 ^ (places + 1) := by
      have hle : d * 10 ^ places ≤ 9 * 10 ^ places := Nat.mul_le_mul_right _ (by omega)
      rw [Nat.pow_succ]
      omega
    have hmod : ((x.mantissa * 10 + d) * 10 ^ places + r) % 10 ^ (places + 1) = 0 := by
      rw [← hsize, Nat.mul_mod_left]
    have hsum : (x.mantissa * 10 + d) * 10 ^ places + r =
        d * 10 ^ places + r + 10 ^ (places + 1) * x.mantissa := by
      rw [Nat.pow_succ]
      ring
    rw [hsum, Nat.add_mul_mod_self_left, Nat.mod_eq_of_lt hrest] at hmod
    have hd : d * 10 ^ places = 0 := by omega
    exact ⟨(Nat.mul_eq_zero.mp hd).resolve_right (Nat.ne_of_gt (Nat.pow_pos (by decide))), by omega⟩

/-- A place that does not fit is rounded as the whole number is. -/
theorem rounds_of_roundAt? {x y : Decimal} {d r places : Nat} (hd : d < 10)
    (hr : r < 10 ^ places) (hfull : maxMantissa < x.mantissa * 10 + d ∨ x.scale = maxScale)
    (h : x.roundAt? d = some y) :
    Rounds ((x.mantissa * 10 + d) * 10 ^ places + r) (x.scale + (places + 1)) y := by
  have hexact : ∀ z : Decimal, HasSize ((x.mantissa * 10 + d) * 10 ^ places + r)
      (x.scale + (places + 1)) z → HasSize ((x.mantissa * 10 + d) * 10 ^ places + r)
      (x.scale + (places + 1)) y := by
    intro z hz
    obtain ⟨hdzero, hrzero⟩ := rest_eq_zero hd hr hfull hz
    rcases (roundAt?_cases h).2 with ⟨_, hmantissa, hscale⟩ | ⟨hfive, _⟩ | ⟨hfive, _⟩
    · unfold HasSize
      rw [hmantissa, hscale, hdzero, hrzero, Nat.pow_add, Nat.pow_succ]
      ring
    · omega
    · omega
  rcases (roundAt?_cases h).2 with ⟨hless, hmantissa, hscale⟩ | ⟨hfive, hmantissa, hscale⟩ |
    ⟨_, hmantissa, hscale⟩
  · refine ⟨by omega, ?_, hexact⟩
    rw [hscale, Nat.add_sub_cancel_left, roundOff_digits hr, hmantissa]
    omega
  · refine ⟨by omega, ?_, hexact⟩
    rw [hscale, Nat.add_sub_cancel_left, roundOff_digits hr, hmantissa]
    omega
  · have hplaces : x.scale + (places + 1) - y.scale = places + 2 := by omega
    refine ⟨by omega, ?_, hexact⟩
    rw [hplaces, roundOff_digits_succ hd hr, hmantissa]

/-! ## Runs of digits -/

/-- The first digit of a run, and the size of those after it. -/
theorem ofDigitChars_cons_size (c : Char) (digits : List Char) (n : Nat) :
    Nat.ofDigitChars 10 (c :: digits) n =
      (n * 10 + Text.digitValue c) * 10 ^ digits.length + Nat.ofDigitChars 10 digits 0 := by
  rw [ofDigitChars_cons_eq, Nat.ofDigitChars_eq_ofDigitChars_zero, Nat.mul_comm]

/-- Digits before the point are taken as they are, or not at all. -/
theorem exists_of_readDigits_append {x y : Decimal} {digits : List Char}
    (hdigits : ∀ c ∈ digits, c.isDigit = true) {seen : Bool} {rest : List Char}
    (h : readDigits x seen (digits ++ rest) = .ok y) :
    ∃ z : Decimal, z.negative = x.negative ∧ z.mantissa = Nat.ofDigitChars 10 digits x.mantissa ∧
      z.scale = x.scale ∧ readDigits z (seen || !digits.isEmpty) rest = .ok y := by
  induction digits generalizing x seen with
  | nil =>
    rw [List.nil_append] at h
    rw [List.isEmpty_nil, Bool.not_true, Bool.or_false]
    exact ⟨x, rfl, rfl, rfl, h⟩
  | cons c digits ih =>
    have hc : c.isDigit = true := hdigits c (List.mem_cons_self ..)
    rw [List.cons_append, readDigits, if_pos hc] at h
    cases happend : x.appendDigit? (Text.digitValue c) with
    | none =>
      rw [happend] at h
      cases h
    | some x' =>
      rw [happend] at h
      obtain ⟨hnegative, hmantissa, hscale⟩ := appendDigit?_eq_some happend
      obtain ⟨z, hznegative, hzmantissa, hzscale, hrest⟩ :=
        ih (fun d hd => hdigits d (List.mem_cons_of_mem _ hd)) h
      refine ⟨z, hznegative.trans hnegative, ?_, hzscale.trans hscale, ?_⟩
      · rw [hzmantissa, hmantissa, ofDigitChars_cons_eq]
      · rw [Bool.true_or] at hrest
        rw [List.isEmpty_cons, Bool.not_false, Bool.or_true, hrest]

/-- **Places are rounded where they do not fit any more.** -/
theorem rounds_of_readPlaces {x y : Decimal} {digits : List Char}
    (hdigits : ∀ c ∈ digits, c.isDigit = true) {seen : Bool}
    (h : readPlaces x seen digits = .ok y) :
    Rounds (Nat.ofDigitChars 10 digits x.mantissa) (x.scale + digits.length) y ∧
      y.negative = x.negative := by
  induction digits generalizing x seen with
  | nil =>
    rw [readPlaces] at h
    split at h
    next =>
      cases h
      exact ⟨rounds_self rfl rfl, rfl⟩
    next => cases h
  | cons c digits ih =>
    have hc : c.isDigit = true := hdigits c (List.mem_cons_self ..)
    have hrest : ∀ d ∈ digits, d.isDigit = true := fun d hd =>
      hdigits d (List.mem_cons_of_mem _ hd)
    rw [readPlaces, if_pos hc] at h
    cases happend : x.appendPlace? (Text.digitValue c) with
    | some x' =>
      rw [happend] at h
      obtain ⟨hnegative, hmantissa, hscale⟩ := appendPlace?_eq_some happend
      obtain ⟨hrounds, hsign⟩ := ih hrest h
      rw [hmantissa, hscale, ← ofDigitChars_cons_eq, Nat.add_assoc, Nat.add_comm 1] at hrounds
      exact ⟨hrounds, hsign.trans hnegative⟩
    | none =>
      -- the digit that does not fit ends the number
      rw [happend] at h
      simp only at h
      cases hround : x.roundAt? (Text.digitValue c) with
      | none =>
        rw [hround] at h
        cases h
      | some x' =>
        rw [hround] at h
        simp only at h
        cases htail : checkTail digits with
        | error e =>
          rw [htail] at h
          cases h
        | ok _ =>
          rw [htail] at h
          cases h
          rw [ofDigitChars_cons_size]
          exact ⟨rounds_of_roundAt? (Text.digitValue_lt hc) (Text.ofDigitChars_lt_pow hrest)
            (appendPlace?_eq_none happend) hround, (roundAt?_cases hround).1⟩

theorem checkTail_of_isDigit {digits : List Char} (h : ∀ c ∈ digits, c.isDigit = true) :
    checkTail digits = .ok () := by
  induction digits with
  | nil => rfl
  | cons c digits ih =>
    rw [checkTail, h c (List.mem_cons_self ..), Bool.true_or, if_pos rfl]
    exact ih fun d hd => h d (List.mem_cons_of_mem _ hd)

/-- Places that some decimal has are read. -/
theorem exists_readPlaces {x y : Decimal} {digits : List Char}
    (hdigits : ∀ c ∈ digits, c.isDigit = true) {seen : Bool} (hseen : seen = true ∨ digits ≠ [])
    (hy : HasSize (Nat.ofDigitChars 10 digits x.mantissa) (x.scale + digits.length) y) :
    ∃ z, readPlaces x seen digits = .ok z := by
  induction digits generalizing x seen with
  | nil =>
    rw [readPlaces, hseen.resolve_right fun hne => hne rfl]
    exact ⟨x, rfl⟩
  | cons c digits ih =>
    have hc : c.isDigit = true := hdigits c (List.mem_cons_self ..)
    have hrest : ∀ d ∈ digits, d.isDigit = true := fun d hd =>
      hdigits d (List.mem_cons_of_mem _ hd)
    rw [readPlaces, if_pos hc]
    cases happend : x.appendPlace? (Text.digitValue c) with
    | some x' =>
      obtain ⟨-, hmantissa, hscale⟩ := appendPlace?_eq_some happend
      refine ih hrest (Or.inl rfl) ?_
      rw [hmantissa, hscale, ← ofDigitChars_cons_eq, Nat.add_assoc, Nat.add_comm 1]
      exact hy
    | none =>
      -- only zeros are left
      rw [ofDigitChars_cons_size] at hy
      have hzero := (rest_eq_zero (Text.digitValue_lt hc) (Text.ofDigitChars_lt_pow hrest)
        (appendPlace?_eq_none happend) hy).1
      have hround : x.roundAt? (Text.digitValue c) = some x := by
        unfold roundAt?
        rw [hzero, if_pos (by decide)]
      simp only [hround, checkTail_of_isDigit hrest]
      exact ⟨x, rfl⟩

end Decimal

end BudgetNotes
