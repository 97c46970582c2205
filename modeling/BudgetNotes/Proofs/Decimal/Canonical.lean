import BudgetNotes.Proofs.Decimal.Numeral

/-!
# Amounts as texts

An amount is shown by the numeral of its normal form, so the text tells the
number and nothing else: amounts that are equal have one text, amounts that
differ have two, and the text is read back as the amount. Texts that keep all
places of a decimal are read back, too.

> `value_numeral`: a decimal is printed as a numeral of its number.

Main statement: `Money.toText_canonical`.
-/

namespace BudgetNotes

namespace Decimal

/-! ## The numeral of a decimal -/

/-- The numeral that a decimal is printed as. -/
def numeral (x : Decimal) : Numeral where
  sign := if x.negative then .minus else .absent
  whole := Nat.toDigits 10 (x.mantissa / 10 ^ x.scale)
  places := if x.scale = 0 then none
    else some (Text.padded x.scale (x.mantissa % 10 ^ x.scale))
  isDigit_of_mem := by
    intro c hc
    rcases List.mem_append.mp hc with hc | hc
    · exact Nat.isDigit_of_mem_toDigits (by decide) (by decide) hc
    · split at hc
      next => cases hc
      next => exact Text.isDigit_of_mem_padded hc
  digits_ne_nil h := Nat.toDigits_ne_nil (List.append_eq_nil_iff.mp h).1

theorem toText_numeral (x : Decimal) : x.numeral.toText = x.toText := by
  have hsign : x.numeral.sign.chars = if x.negative then ['-'] else [] := by
    unfold numeral
    cases x.negative with
    | true => rfl
    | false => rfl
  have hplaces : (x.numeral.places.map fun digits => '.' :: digits).getD [] =
      if x.scale = 0 then [] else '.' :: Text.padded x.scale (x.mantissa % 10 ^ x.scale) := by
    unfold numeral
    by_cases h : x.scale = 0
    · simp only [if_pos h]
      rfl
    · simp only [if_neg h]
      rfl
  unfold Numeral.toText Numeral.body toText
  rw [toChars_eq, hsign, hplaces, ← List.append_assoc]
  rfl

/-- A decimal is printed as a numeral of its number. -/
theorem value_numeral (x : Decimal) : x.numeral.value = x.value := by
  have hplaces : x.numeral.scale = x.scale ∧ x.numeral.size = x.mantissa := by
    unfold Numeral.scale Numeral.size numeral
    by_cases h : x.scale = 0
    · simp only [if_pos h, Option.getD_none, List.append_nil, List.length_nil]
      rw [Nat.ofDigitChars_ten_toDigits, h, Nat.pow_zero, Nat.div_one]
      exact ⟨rfl, rfl⟩
    · have hlength : (Text.padded x.scale (x.mantissa % 10 ^ x.scale)).length = x.scale :=
        Text.length_padded_of_lt (Nat.pos_of_ne_zero h) (Nat.mod_lt _ (Nat.pow_pos (by decide)))
      simp only [if_neg h, Option.getD_some]
      rw [Nat.ofDigitChars_append, Nat.ofDigitChars_ten_toDigits, Text.ofDigitChars_padded,
        hlength]
      exact ⟨rfl, Nat.div_add_mod' ..⟩
  have hsign : x.numeral.isNegative = x.negative := by
    unfold Numeral.isNegative numeral
    cases x.negative with
    | true => rfl
    | false => rfl
  unfold Numeral.value value
  rw [hplaces.1, hplaces.2, hsign]

/-- What is read of a printed decimal is the same number. -/
theorem equiv_settled (x : Decimal) : Equiv x.settled x :=
  (normalize_eq_iff _ _).mp (normalize_settled x)

end Decimal

namespace Money

open Decimal

/-! ## Texts of amounts -/

/-- Amounts are equal exactly when their texts are. -/
theorem equiv_iff_toText_eq (a b : Money) : Equiv a.amount b.amount ↔ a.toText = b.toText := by
  rw [← normalize_eq_iff]
  unfold toText
  constructor
  · intro h
    rw [h]
  · intro h
    -- either text is read back as the normal form it was printed from
    have hread := ofTyped_toText (isNormal_normalize a.amount).signed
    rw [h, ofTyped_toText (isNormal_normalize b.amount).signed] at hread
    exact (Except.ok.inj hread).symm

/-- An amount of no more than two places is read back in normal form. -/
theorem ofText_toText {m : Money} (h : Fits m.amount) : ofText m.toText = .ok m.normalize := by
  have hfits : Fits m.amount.normalize := by
    unfold Fits at h ⊢
    rw [normalize_normalize]
    exact h
  unfold ofText toText ofDecimal?
  rw [ofTyped_toText (isNormal_normalize m.amount).signed]
  simp only [if_pos hfits]
  rfl

/-- Cents make an amount of two places. -/
theorem value_ofCents (cents : Int64) : (ofCents cents).amount.value * 100 = cents.toInt := by
  have hsize : (cents.toInt.natAbs : ℚ) = |(cents.toInt : ℚ)| := by
    rw [Nat.cast_natAbs, Int.cast_abs]
  have hhundred : ((10 ^ 2 : Nat) : ℚ) = 100 := rfl
  have hne : (100 : ℚ) ≠ 0 := by decide
  unfold ofCents value signedRatio
  simp only [decide_eq_true_eq]
  rw [hhundred, mul_assoc, div_mul_cancel₀ _ hne, hsize]
  split
  next hneg =>
    have hneg' : (cents.toInt : ℚ) < 0 := Int.cast_lt_zero.mpr hneg
    rw [abs_of_neg hneg', neg_one_mul, neg_neg]
  next hnonneg =>
    have hnonneg' : (0 : ℚ) ≤ cents.toInt := Int.cast_nonneg (Int.not_lt.mp hnonneg)
    rw [abs_of_nonneg hnonneg', one_mul]

/-- **The text of an amount is canonical, and loses nothing.** An amount that needs no more than
two places, as one of so many cents does, is read back from its text as the same number; the text
is a numeral of that number, and amounts have the same text exactly when they are equal. And every
decimal is read back from the text of its normal form and from the text with all its places. -/
theorem toText_canonical :
    (∀ m : Money, Fits m.amount →
      (∃ m', ofText m.toText = .ok m' ∧ Equiv m'.amount m.amount) ∧
      ∃ n : Numeral, n.toText = m.toText ∧ n.value = m.amount.value) ∧
    (∀ cents : Int64, Fits (ofCents cents).amount ∧
      (ofCents cents).amount.value * 100 = cents.toInt) ∧
    (∀ a b : Money, Equiv a.amount b.amount ↔ a.toText = b.toText) ∧
    ∀ x : Decimal,
      (∃ y, ofTyped x.normalize.toText = .ok y ∧ Equiv y x) ∧
      ∃ y, ofTyped x.toText = .ok y ∧ Equiv y x := by
  refine ⟨fun m hfits => ⟨⟨m.normalize, ofText_toText hfits, units_normalize m.amount⟩,
    m.amount.normalize.numeral, toText_numeral _, ?_⟩, fun cents => ⟨?_, value_ofCents cents⟩,
    equiv_iff_toText_eq, fun x => ⟨⟨x.normalize, ?_, units_normalize x⟩, ?_⟩⟩
  · rw [value_numeral, value_normalize]
  · exact (fits_iff_isCents _).mpr ⟨cents.toInt, value_ofCents cents⟩
  · exact ofTyped_toText (isNormal_normalize x).signed
  · exact ⟨x.settled, ofTyped_toText_eq_settled x, equiv_settled x⟩

/-- The largest mantissa that ends with a zero has two places left. -/
theorem toText_canonical_largest :
    let m : Money := ⟨⟨true, 79228162514264337593543950330, 3, by decide, by decide⟩⟩
    Fits m.amount ∧ m.toText = "-79228162514264337593543950.33" ∧
      ∃ m', ofText "-79228162514264337593543950.33" = .ok m' ∧ Equiv m'.amount m.amount := by
  intro m
  have hfits : Fits m.amount := by decide
  have htext : m.toText = "-79228162514264337593543950.33" := by decide +kernel
  obtain ⟨hread, -⟩ := toText_canonical.1 m hfits
  rw [htext] at hread
  exact ⟨hfits, htext, hread⟩

end Money

end BudgetNotes
