import BudgetNotes.Proofs.Calendar.Text
import BudgetNotes.Proofs.Decimal.NormalForm
import BudgetNotes.Proofs.Decimal.Text
import BudgetNotes.Proofs.Draft.Readers

/-!
# Printed fields

What a field says when its text was printed from a value. Such a text is not
blank, and says the value in normal form if the value can be read at all
(`Field.Prints`). Every reader that takes its format then gives that value, under
the same condition (`Field.Reads.gives_printed`).

Main statements: one for each format, from `Field.prints_decimal` to
`Field.prints_repeatUnit`, and what the readers make of them, from
`Field.gives_money` to `Field.gives_optionalMonth`.
-/

namespace BudgetNotes

/-! ## Texts of numbers -/

namespace Decimal

/-- A printed decimal has no white space in it. -/
theorem not_isSpace_of_mem_toText {x : Decimal} {c : Char} (h : c ∈ x.toText.toList) :
    Text.isSpace c = false := by
  unfold toText at h
  rw [String.toList_ofList] at h
  exact not_isSpace_of_mem_toChars h

/-- An integer that fits is a decimal without places, printed as the integer is. -/
theorem exists_toText_eq_intNumeral {n : Int} (h : n.natAbs ≤ maxMantissa) :
    ∃ x : Decimal, x.toText = Text.intNumeral n ∧ x.toInt? = some n ∧
      (x.negative = true → x.mantissa ≠ 0) := by
  refine ⟨⟨decide (n < 0), n.natAbs, 0, h, Nat.zero_le _⟩, ?_, ?_, ?_⟩
  · unfold toText Text.intNumeral Text.numeral
    simp only [toChars_eq, Nat.pow_zero, Nat.div_one, decide_eq_true_eq, if_true, List.append_nil]
    split
    next => rw [String.ofList_append]
    next => rw [List.nil_append]
  · simp only [toInt?_eq, Nat.pow_zero, Nat.mod_one, Nat.div_one, if_true, decide_eq_true_eq]
    split
    next => exact congrArg some (by omega)
    next => exact congrArg some (by omega)
  · intro hneg
    have hlt : n < 0 := of_decide_eq_true hneg
    show n.natAbs ≠ 0
    omega

end Decimal

namespace Field

open Check Format

/-! ## Printed texts -/

variable {α β γ : Type}

/-- A text that was printed says one value if that is readable, and none otherwise. -/
structure Prints (means : String → α → Prop) (text : String) (readable : Prop) (value : α) :
    Prop where
  present : present? text = some text
  means_iff : ∀ a, means text a ↔ readable ∧ a = value

section

variable {means : String → α → Prop} {text : String} {readable : Prop} {value : α}
  {r : Requirement}

/-- What is printed is given by a reader that insists on it. -/
theorem Reads.gives_printed {check : String → Check α} (h : Reads check (Filled means) r)
    (hprints : Prints means text readable value) {p : α → Prop} :
    (check text).Gives p ↔ readable ∧ p value := by
  rw [h.gives, hprints.present]
  simp [Filled, hprints.means_iff, and_assoc]

/-- What is printed is given by a reader of a field that may be left out. -/
theorem Reads.gives_some_printed {check : String → Check (Option α)}
    (h : Reads check (Option.Rel means) r) (hprints : Prints means text readable value)
    {p : Option α → Prop} :
    (check text).Gives p ↔ readable ∧ p (some value) := by
  rw [h.gives, hprints.present]
  constructor
  · rintro ⟨v, hv, hp⟩
    cases hv with
    | some ha =>
      obtain ⟨hreadable, rfl⟩ := (hprints.means_iff _).mp ha
      exact ⟨hreadable, hp⟩
  · rintro ⟨hreadable, hp⟩
    exact ⟨some value, .some ((hprints.means_iff value).mpr ⟨hreadable, rfl⟩), hp⟩

/-- What is printed and readable is read. -/
theorem Reads.eq_ok_some {check : String → Check (Option α)} (h : Reads check (Option.Rel means) r)
    (hprints : Prints means text readable value) (hreadable : readable) :
    check text = .ok (some value) :=
  gives_eq_iff.mp ((h.gives_some_printed hprints).mpr ⟨hreadable, rfl⟩)

/-- A field that is left empty for a missing value gives it back if each value is readable. -/
theorem Reads.gives_getD_empty {check : String → Check (Option α)}
    (h : Reads check (Option.Rel means) r) {toText : β → String} {readable : β → Prop}
    {value : β → α} (hprints : ∀ b, Prints means (toText b) (readable b) (value b))
    {x : Option β} {p : Option α → Prop} :
    (check ((x.map toText).getD "")).Gives p ↔ (∀ b ∈ x, readable b) ∧ p (x.map value) := by
  cases x with
  | none =>
    show (check "").Gives p ↔ _
    rw [h.eq_none_iff.mpr rfl, gives_ok]
    simp
  | some b =>
    show (check (toText b)).Gives p ↔ _
    rw [h.gives_some_printed (hprints b)]
    simp

end

/-- A text without white space is not blank unless it is empty. -/
theorem present?_eq_self {raw : String} (hspace : ∀ c ∈ raw.toList, Text.isSpace c = false)
    (hne : raw ≠ "") : present? raw = some raw := by
  have htrim := Text.trim_eq_self hspace
  refine present?_eq_some_iff.mpr ⟨?_, htrim⟩
  rw [Bool.eq_false_iff, Ne, Text.isBlank_iff_trim_eq_empty, htrim]
  exact hne

/-! ## Numbers -/

/-- A printed decimal is there, as it is. -/
theorem present?_toText (x : Decimal) : present? x.toText = some x.toText := by
  refine present?_eq_self (fun c hc => Decimal.not_isSpace_of_mem_toText hc) fun hempty => ?_
  have hchars := congrArg String.toList hempty
  unfold Decimal.toText at hchars
  rw [Decimal.toChars_eq, String.toList_ofList, String.toList_empty, List.append_eq_nil_iff,
    List.append_eq_nil_iff] at hchars
  exact Nat.toDigits_ne_nil hchars.1.2

/-- What a decimal's text means is what the decimal does. -/
theorem prints_toText {is : Decimal → α → Prop} {x : Decimal}
    (hsigned : x.negative = true → x.mantissa ≠ 0) {readable : Prop} {value : α}
    (his : ∀ a, is x a ↔ readable ∧ a = value) :
    Prints (MeansNumber is) x.toText readable value where
  present := present?_toText x
  means_iff a := by
    unfold MeansNumber
    rw [Decimal.ofTyped_toText hsigned]
    simp [his]

/-- A decimal in normal form is always read back. -/
theorem prints_decimal (x : Decimal) :
    Prints (MeansNumber Eq) x.normalize.toText True x.normalize :=
  prints_toText (Decimal.isNormal_normalize x).signed fun a => by rw [true_and, eq_comm]

/-- An amount is read back if it needs no more than two places. -/
theorem prints_amount (m : Money) :
    Prints (MeansNumber IsAmount) m.toText (Money.Fits m.amount) m.normalize := by
  refine prints_toText (Decimal.isNormal_normalize m.amount).signed fun a => ?_
  have hamount : a.amount = m.amount.normalize ↔ a = m.normalize :=
    ⟨fun h => congrArg Money.mk h, congrArg Money.amount⟩
  unfold IsAmount Money.Fits
  rw [Decimal.normalize_normalize, hamount, and_comm]

/-- An integer is printed as a decimal without places. -/
theorem prints_intNumeral {is : Decimal → α → Prop} {n : Int} (h : n.natAbs ≤ Decimal.maxMantissa)
    {readable : Prop} {value : α}
    (his : ∀ x : Decimal, x.toInt? = some n → ∀ a, is x a ↔ readable ∧ a = value) :
    Prints (MeansNumber is) (Text.intNumeral n) readable value := by
  obtain ⟨x, htext, hint, hsigned⟩ := Decimal.exists_toText_eq_intNumeral h
  rw [← htext]
  exact prints_toText hsigned (his x hint)

/-- A priority is always read back. -/
theorem prints_priority (n : Int32) :
    Prints (MeansNumber IsPriority) (Text.intNumeral n.toInt) True n := by
  have hlow := Int32.le_toInt n
  have hhigh := Int32.toInt_lt n
  have hfits : n.toInt.natAbs ≤ Decimal.maxMantissa := by
    unfold Decimal.maxMantissa
    omega
  refine prints_intNumeral hfits fun x hint p => ?_
  unfold IsPriority
  rw [hint, Option.some.injEq, Int32.toInt_inj, true_and, eq_comm]

/-- A count is read back if it is not zero. -/
theorem prints_count (n : UInt32) :
    Prints (MeansNumber IsCount) (Text.numeral n.toNat) (1 ≤ n) n := by
  have hlt := n.toNat_lt
  have hfits : ((n.toNat : Nat) : Int).natAbs ≤ Decimal.maxMantissa := by
    unfold Decimal.maxMantissa
    omega
  have hnumeral : Text.numeral n.toNat = Text.intNumeral n.toNat := by
    unfold Text.intNumeral
    rw [if_neg (by omega), Int.natAbs_natCast]
  rw [hnumeral]
  refine prints_intNumeral hfits fun x hint c => ?_
  unfold IsCount
  rw [hint, Option.some.injEq, Int.natCast_inj, UInt32.toNat_inj]
  constructor
  · rintro ⟨rfl, hone⟩
    exact ⟨hone, rfl⟩
  · rintro ⟨hone, rfl⟩
    exact ⟨rfl, hone⟩

/-! ## Dates, months and choices -/

/-- A date is read back if its year has four digits. -/
theorem prints_date (d : Date) :
    Prints (fun s d => Date.ofIso? s = some d) d.toText (FourDigitYear d.year) d where
  present := by
    refine present?_eq_self (fun c hc => Date.not_isSpace_of_mem_toText hc) fun hempty => ?_
    obtain ⟨sign, _, _, hchars⟩ := d.toList_toText
    rw [hempty, String.toList_empty] at hchars
    simp at hchars
  means_iff a := by
    rw [Date.ofIso?_toText, Option.ite_none_right_eq_some, Option.some.injEq, eq_comm (a := a)]

/-- A month is read back if its year has four digits. -/
theorem prints_month (m : BudgetMonth) :
    Prints (fun s m => BudgetMonth.ofText s = .ok m) m.toText (FourDigitYear m.year) m where
  present := by
    refine present?_eq_self (fun c hc => BudgetMonth.not_isSpace_of_mem_toText hc) fun hempty => ?_
    have hchars := congrArg String.toList hempty
    unfold BudgetMonth.toText at hchars
    rw [String.toList_ofList, String.toList_empty, List.append_eq_nil_iff] at hchars
    exact List.cons_ne_nil _ _ hchars.2
  means_iff a := by
    by_cases hyear : FourDigitYear m.year
    · rw [BudgetMonth.ofText_toText hyear, Except.ok.injEq, and_iff_right hyear, eq_comm]
    · rw [BudgetMonth.ofText_toText_of_year hyear]
      exact iff_of_false (fun h => nomatch h) fun h => hyear h.1

/-- A word that is read as a choice. -/
theorem prints_choice {read : String → Except UnknownChoice α} {word : String} {a : α}
    (hpresent : present? word = some word) (hread : read word = .ok a) :
    Prints (fun s a => read s = .ok a) word True a where
  present := hpresent
  means_iff b := by rw [hread, Except.ok.injEq, true_and, eq_comm]

/-- The word of a window is read back. -/
theorem prints_limitPeriod (period : LimitPeriod) :
    Prints (fun s a => LimitPeriod.ofText s = .ok a) period.word True period := by
  refine prints_choice ?_ ?_
  · cases period <;> decide
  · cases period <;> decide +kernel

/-- The word of an interval unit is read back. -/
theorem prints_periodUnit (unit : PeriodUnit) :
    Prints (fun s a => PeriodUnit.ofText s = .ok a) unit.word True unit := by
  refine prints_choice ?_ ?_
  · cases unit <;> decide
  · cases unit <;> decide +kernel

/-- The word of a unit of repetition is read back. -/
theorem prints_repeatUnit (unit : RepeatUnit) :
    Prints (fun s a => RepeatUnit.ofText s = .ok a) unit.word True unit := by
  refine prints_choice ?_ ?_
  · cases unit <;> decide
  · cases unit <;> decide +kernel

/-! ## Readers of printed texts -/

section

variable {field : Field}

@[simp] theorem gives_decimal {x : Decimal} {p : Decimal → Prop} :
    (field.decimal x.normalize.toText).Gives p ↔ p x.normalize := by
  rw [field.reads_decimal.gives_printed (prints_decimal x), true_and]

@[simp] theorem optionalDecimal_toText (x : Decimal) :
    field.optionalDecimal x.normalize.toText = .ok (some x.normalize) :=
  field.reads_optionalDecimal.eq_ok_some (prints_decimal x) trivial

/-- A decimal that may be missing is given back in normal form. -/
@[simp] theorem gives_optionalDecimal {x : Option Decimal} {p : Option Decimal → Prop} :
    (field.optionalDecimal ((x.map fun x => x.normalize.toText).getD "")).Gives p ↔
      p (x.map Decimal.normalize) := by
  rw [field.reads_optionalDecimal.gives_getD_empty prints_decimal]
  simp

@[simp] theorem gives_money {m : Money} {p : Money → Prop} :
    (field.money m.toText).Gives p ↔ Money.Fits m.amount ∧ p m.normalize :=
  field.reads_money.gives_printed (prints_amount m)

@[simp] theorem gives_count {n : UInt32} {p : UInt32 → Prop} :
    (field.count (Text.numeral n.toNat)).Gives p ↔ 1 ≤ n ∧ p n :=
  field.reads_count.gives_printed (prints_count n)

/-- A text is read unless it is blank. -/
@[simp] theorem gives_text {s : String} {p : String → Prop} :
    (field.text s).Gives p ↔ Text.isBlank s = false ∧ p (Text.trim s) := by
  rw [field.reads_text.gives]
  simp [Filled, present?_eq_some_iff, and_assoc]

@[simp] theorem gives_date {d : Date} {p : Date → Prop} :
    (field.date d.toText).Gives p ↔ FourDigitYear d.year ∧ p d :=
  field.reads_date.gives_printed (prints_date d)

@[simp] theorem gives_budgetMonth {m : BudgetMonth} {p : BudgetMonth → Prop} :
    (field.budgetMonth m.toText).Gives p ↔ FourDigitYear m.year ∧ p m :=
  field.reads_budgetMonth.gives_printed (prints_month m)

@[simp] theorem gives_optionalMonth {month : Option BudgetMonth}
    {p : Option BudgetMonth → Prop} :
    (field.optionalMonth ((month.map BudgetMonth.toText).getD "")).Gives p ↔
      (∀ m ∈ month, FourDigitYear m.year) ∧ p month := by
  rw [field.reads_optionalMonth.gives_getD_empty prints_month, Option.map_id']

end

end Field

end BudgetNotes
