import BudgetNotes.Proofs.Calendar.Text

/-!
# What can be read as a date or a month

The year of a date that is typed has four digits, and so has the year of a
month, whether it is typed or stored. So neither ever has a sign or a fifth
digit, however the text was written.

Main statements: `Date.fourDigitYear_of_ofIso?` and
`BudgetMonth.fourDigitYear_of_ofText`.
-/

namespace BudgetNotes

theorem fourDigitYear_of_readNat? {digits : List Char} {year : Nat}
    (hread : Text.readNat? digits = some year) (hlength : digits.length = 4) :
    FourDigitYear year := by
  have hlt := Text.lt_of_readNat? hread
  rw [hlength] at hlt
  have hlt : year < 10000 := hlt
  unfold FourDigitYear
  omega

/-! ## Dates -/

namespace Date

/-- A date has the numbers that it was made of. -/
theorem numbers_of_ofNumbers? {year : Int} {month day : Nat} {d : Date}
    (h : ofNumbers? year month day = some d) :
    d.year = year ∧ d.month = month ∧ d.day = day := by
  unfold ofNumbers? at h
  split at h
  next => cases h; exact ⟨rfl, rfl, rfl⟩
  next => cases h

/-- **A date that was typed has a year of four digits.** -/
theorem fourDigitYear_of_ofIso? {s : String} {d : Date} (h : ofIso? s = some d) :
    FourDigitYear d.year := by
  unfold ofIso? ofIsoChars? at h
  split at h
  next y1 y2 y3 y4 _ _ _ _ _ =>
    obtain ⟨year, hyear, h⟩ := Option.bind_eq_some_iff.mp h
    obtain ⟨month, _, h⟩ := Option.bind_eq_some_iff.mp h
    obtain ⟨day, _, h⟩ := Option.bind_eq_some_iff.mp h
    rw [(numbers_of_ofNumbers? h).1]
    exact fourDigitYear_of_readNat? hyear rfl
  next => cases h

end Date

/-! ## Months -/

namespace BudgetMonth

/-- A month has the numbers that it was made of. -/
theorem numbers_of_ofNumbers? {year : Int} {month : Nat} {m : BudgetMonth}
    (h : ofNumbers? year month = some m) : m.year = year ∧ m.month = month := by
  unfold ofNumbers? at h
  split at h
  next => cases h; exact ⟨rfl, rfl⟩
  next => cases h

/-- The parts of a month have their widths, and a dash between them. -/
theorem append_of_parts? {cs year month : List Char} (h : parts? cs = some (year, month)) :
    cs = year ++ '-' :: month ∧ year.length = 4 ∧ month.length = 2 := by
  unfold parts? at h
  split at h
  next =>
    split at h
    next => cases h; exact ⟨rfl, rfl, rfl⟩
    next => cases h
  next => cases h

/-- A month is read when all steps of reading it succeed. -/
theorem ofText_eq_ok_iff {s : String} {m : BudgetMonth} :
    ofText s = .ok m ↔ ∃ yearDigits monthDigits year month,
      parts? (Text.trimChars s.toList) = some (yearDigits, monthDigits) ∧
      Text.readNat? yearDigits = some year ∧ Text.readNat? monthDigits = some month ∧
      ofNumbers? year month = some m := by
  constructor
  · intro h
    unfold ofText at h
    split at h
    next => cases h
    next yearDigits monthDigits hparts =>
      split at h
      next => cases h
      next year hyear =>
        split at h
        next => cases h
        next month hmonth =>
          split at h
          next => cases h
          next other hnumbers =>
            cases h
            exact ⟨yearDigits, monthDigits, year, month, hparts, hyear, hmonth, hnumbers⟩
  · intro ⟨yearDigits, monthDigits, year, month, hparts, hyear, hmonth, hnumbers⟩
    unfold ofText
    simp only [hparts, hyear, hmonth, hnumbers]

/-- **A month that was read has a year of four digits.** -/
theorem fourDigitYear_of_ofText {s : String} {m : BudgetMonth} (h : ofText s = .ok m) :
    FourDigitYear m.year := by
  obtain ⟨yearDigits, monthDigits, year, month, hparts, hyear, _, hnumbers⟩ := ofText_eq_ok_iff.mp h
  obtain ⟨_, hlength, _⟩ := append_of_parts? hparts
  rw [(numbers_of_ofNumbers? hnumbers).1]
  exact fourDigitYear_of_readNat? hyear hlength

end BudgetMonth

end BudgetNotes
