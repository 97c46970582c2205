import BudgetNotes.Proofs.Decimal.Numeral
import BudgetNotes.Proofs.Draft.Readers

/-!
# Typed numbers, exact or rounded

Amounts, priorities and counts are checked after they were read: two places at
most, or none. Reading rounds a number that no decimal is, so such a number may
pass the check although it has more places than allowed. Of all other numbers
nothing is lost: what a field accepts is the number that was typed, and it
accepts the ones in its range.

> `exists_isAmount_iff`, `exists_isPriority_iff`, `exists_isCount_iff`: which
> decimals are accepted, said by their values.

Main statement: `Field.exactOnDecimals`.
-/

namespace BudgetNotes

/-! ## Decimals that are accepted -/

/-- Whether a number is an integer from `low` to `high`. -/
def IsWholeIn (low high : ℤ) (v : ℚ) : Prop := ∃ i : ℤ, v = i ∧ low ≤ i ∧ i ≤ high

namespace Format

variable {x : Decimal}

/-- An amount is so many cents. -/
theorem exists_isAmount_iff : (∃ m, IsAmount x m) ↔ Money.IsCents x.value := by
  rw [← Money.fits_iff_isCents]
  constructor
  · rintro ⟨m, -, hfits⟩
    exact hfits
  · intro hfits
    exact ⟨⟨x⟩, rfl, hfits⟩

theorem exists_isPriority_iff :
    (∃ p, IsPriority x p) ↔ IsWholeIn (-2147483648) 2147483647 x.value := by
  simp only [isPriority_iff, Decimal.toInt?_eq_some_iff]
  constructor
  · rintro ⟨_, n, hvalue, hrange, -⟩
    exact ⟨n, hvalue, hrange⟩
  · rintro ⟨n, hvalue, hrange⟩
    exact ⟨_, n, hvalue, hrange, rfl⟩

theorem exists_isCount_iff : (∃ c, IsCount x c) ↔ IsWholeIn 1 4294967295 x.value := by
  simp only [isCount_iff, Decimal.toInt?_eq_some_iff]
  constructor
  · rintro ⟨_, n, hvalue, hrange, -⟩
    exact ⟨n, hvalue, hrange⟩
  · rintro ⟨n, hvalue, hrange⟩
    exact ⟨_, n, hvalue, hrange, rfl⟩

end Format

theorem Money.ofText_eq_ok_iff {s : String} {m : Money} :
    ofText s = .ok m ↔ Format.MeansNumber Format.IsAmount s m := by
  unfold ofText Format.MeansNumber Format.IsAmount
  cases Decimal.ofTyped s with
  | error e =>
    refine iff_of_false (fun h => nomatch h) ?_
    rintro ⟨x, ⟨⟩, _⟩
  | ok x =>
    simp only [Except.ok.injEq, exists_eq_left', ← ofDecimal?_eq_some_iff]
    cases ofDecimal? x with
    | some m' => simp
    | none => exact iff_of_false (fun h => nomatch h) (fun h => nomatch h)

/-- A numeral is not blank. -/
theorem Numeral.isBlank_eq_false {n : Numeral} {s : String} (hs : Text.trim s = n.toText) :
    Text.isBlank s = false := by
  rw [Bool.eq_false_iff, Ne, Text.isBlank_iff_trim_eq_empty, hs]
  intro hempty
  have hchars : n.sign.chars ++ n.body = [] := String.ofList_inj.mp hempty
  exact n.body_ne_nil (List.append_eq_nil_iff.mp hchars).2

/-! ## Numerals in fields -/

/-- A reader of texts that denote `v`, said by what it accepts and which number that is. It accepts
`v` itself if some decimal is `v`, and never otherwise; and of the decimals it accepts those in its
range. -/
structure ExactOnDecimals {α : Type} (accepts : α → Prop) (number : α → ℚ) (inRange : ℚ → Prop)
    (v : ℚ) : Prop where
  exact_iff : ∀ a, accepts a → (number a = v ↔ Decimal.CanHold v)
  accepts_iff : Decimal.CanHold v → ((∃ a, accepts a) ↔ inRange v)

theorem ExactOnDecimals.congr {α : Type} {accepts accepts' : α → Prop} {number : α → ℚ}
    {inRange : ℚ → Prop} {v : ℚ} (h : ExactOnDecimals accepts number inRange v)
    (hiff : ∀ a, accepts' a ↔ accepts a) : ExactOnDecimals accepts' number inRange v := by
  rw [show accepts' = accepts from funext fun a => propext (hiff a)]
  exact h

/-- A reader that takes the decimal that is read if its number is in range. -/
theorem exactOnDecimals_meansNumber {α : Type} {is : Decimal → α → Prop} {number : α → ℚ}
    {inRange : ℚ → Prop} {s : String} {n : Numeral} (hs : Text.trim s = n.toText)
    (hnumber : ∀ x a, is x a → x.value = number a)
    (hrange : ∀ {x}, (∃ a, is x a) ↔ inRange x.value) :
    ExactOnDecimals (Format.MeansNumber is s) number inRange n.value where
  exact_iff a ha := by
    obtain ⟨x, hread, hx⟩ := ha
    rw [← hnumber x a hx]
    exact Numeral.value_eq_iff_canHold hs hread
  accepts_iff hcan := by
    obtain ⟨x, hread, hvalue⟩ := Numeral.exists_ofTyped hs hcan
    rw [← hvalue, ← hrange]
    unfold Format.MeansNumber
    rw [hread]
    simp

namespace Field

open Decimal Format

variable {s : String} (field : Field) {n : Numeral}

/-- **What is accepted is the number that was typed if some decimal is that number, and only
then.** Of such numbers the amounts in cents, the priorities of 32 bits and the counts from 1 up
are accepted, and no others. What is read of any number is that number rounded at the last place
that is kept, so a number that no decimal is may be accepted for another one. -/
theorem exactOnDecimals (hs : Text.trim s = n.toText) :
    ExactOnDecimals (fun m => Money.ofText s = .ok m) (fun m => m.amount.value)
      Money.IsCents n.value ∧
    ExactOnDecimals (fun m => field.money s = .ok m) (fun m => m.amount.value)
      Money.IsCents n.value ∧
    ExactOnDecimals (fun p => field.optionalPriority s = .ok (some p)) (fun p => p.toInt)
      (IsWholeIn (-2147483648) 2147483647) n.value ∧
    ExactOnDecimals (fun c => field.optionalCount s = .ok (some c)) (fun c => c.toNat)
      (IsWholeIn 1 4294967295) n.value ∧
    ExactOnDecimals (fun c => field.count s = .ok c) (fun c => c.toNat)
      (IsWholeIn 1 4294967295) n.value ∧
    ∀ x, ofTyped s = .ok x → (x.mantissa : ℤ) = round (|n.value| * (10 ^ x.scale : Nat)) := by
  have hblank := Numeral.isBlank_eq_false hs
  have hamount : ExactOnDecimals (MeansNumber IsAmount s) (fun m => m.amount.value)
      Money.IsCents n.value :=
    exactOnDecimals_meansNumber hs (fun x m hm => congrArg Decimal.value hm.1.symm)
      exists_isAmount_iff
  have hpriority : ExactOnDecimals (MeansNumber IsPriority s) (fun p => p.toInt)
      (IsWholeIn (-2147483648) 2147483647) n.value :=
    exactOnDecimals_meansNumber hs (fun x p hp => toInt?_eq_some_iff.mp hp) exists_isPriority_iff
  have hcount : ExactOnDecimals (MeansNumber IsCount s) (fun c => c.toNat)
      (IsWholeIn 1 4294967295) n.value :=
    exactOnDecimals_meansNumber hs (fun x c hc => toInt?_eq_some_iff.mp hc.1) exists_isCount_iff
  refine ⟨?_, ?_, ?_, ?_, ?_, fun x hread => Numeral.mantissa_eq_round hs hread⟩
  · exact hamount.congr fun m => Money.ofText_eq_ok_iff
  · exact hamount.congr fun m => field.reads_money.number_iff hblank
  · exact hpriority.congr fun p => field.reads_optionalPriority.some_number_iff hblank
  · exact hcount.congr fun c => field.reads_optionalCount.some_number_iff hblank
  · exact hcount.congr fun c => field.reads_count.number_iff hblank

/-- The largest mantissa at two places, and one more zero that does not fit any more. -/
theorem exactOnDecimals_largest :
    let s := " -792281625142643375935439503.350 "
    let n : Numeral := ⟨.minus, "792281625142643375935439503".toList, some "350".toList,
      List.all_eq_true.mp (by decide), by decide⟩
    let m : Money := ⟨⟨true, 79228162514264337593543950335, 2, by decide, by decide⟩⟩
    Text.trim s = n.toText ∧ CanHold n.value ∧ Field.amount.money s = .ok m ∧
      m.amount.value = n.value := by
  intro s n m
  have hs : Text.trim s = n.toText := by decide
  have hcan : CanHold n.value := ⟨m.amount, signedRatio_eq_iff.mpr ⟨by decide, fun _ => rfl⟩⟩
  have hm : Field.amount.money s = .ok m := by decide +kernel
  obtain ⟨-, hmoney, -⟩ := Field.amount.exactOnDecimals hs
  exact ⟨hs, hcan, hm, (hmoney.exact_iff m hm).mpr hcan⟩

/-- A part of a cent that is far enough behind the point is lost, and so is a part of one. -/
theorem accepts_lost_places :
    let s := "12.34000000000000000000000000001"
    let n : Numeral := ⟨.absent, "12".toList, some "34000000000000000000000000001".toList,
      List.all_eq_true.mp (by decide), by decide⟩
    let s' := "1.00000000000000000000000000001"
    let n' : Numeral := ⟨.absent, "1".toList, some "00000000000000000000000000001".toList,
      List.all_eq_true.mp (by decide), by decide⟩
    (Text.trim s = n.toText ∧ ∃ m, Money.ofText s = .ok m ∧ Field.amount.money s = .ok m ∧
      m.amount.value ≠ n.value) ∧
    (Text.trim s' = n'.toText ∧ Field.priority.optionalPriority s' = .ok (some 1) ∧
      Field.numberOfMonths.count s' = .ok 1 ∧ (1 : ℚ) ≠ n'.value) := by
  intro s n s' n'
  let m : Money := ⟨⟨false, 12340000000000000000000000000, 27, by decide, by decide⟩⟩
  have hvalue : m.amount.value ≠ n.value := fun h =>
    absurd (signedRatio_eq_iff.mp h).1 (by decide +kernel)
  have hone : Decimal.one.value = 1 := by
    unfold Decimal.value signedRatio Decimal.one
    norm_num [Nat.pow_zero]
  have hvalue' : (1 : ℚ) ≠ n'.value := by
    rw [← hone]
    exact fun h => absurd (signedRatio_eq_iff.mp h).1 (by decide +kernel)
  exact ⟨⟨by decide, m, by decide +kernel, by decide +kernel, hvalue⟩,
    by decide, by decide +kernel, by decide +kernel, hvalue'⟩

end Field

end BudgetNotes
