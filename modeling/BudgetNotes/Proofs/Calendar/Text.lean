import BudgetNotes.Calendar.Date
import BudgetNotes.Calendar.Month
import BudgetNotes.Proofs.Text.Numerals
import BudgetNotes.Text.Numeral
import Mathlib.Data.List.Basic

/-!
# Printed dates and months

A date or a month is read in one width only, so it is read back when its year
is printed in four digits, and not at all otherwise: a year outside 0 to 9999
has a sign or a fifth digit.

Main statements: `Date.ofIso?_toText`, `BudgetMonth.ofText_toText` and
`BudgetMonth.ofText_toText_of_year`.
-/

namespace BudgetNotes

/-- A year that is printed in four digits. -/
def FourDigitYear (year : Int) : Prop := 0 ≤ year ∧ year ≤ 9999

instance (year : Int) : Decidable (FourDigitYear year) :=
  inferInstanceAs (Decidable (0 ≤ year ∧ year ≤ 9999))

/-- A year of four digits is printed with four. -/
theorem length_padded_year {year : Int} (h : FourDigitYear year) :
    (Text.padded 4 year.natAbs).length = 4 := by
  unfold FourDigitYear at h
  have hlt : year.natAbs < 10000 := by omega
  exact Text.length_padded_of_lt (by decide) hlt

/-- A number below a hundred is printed with two digits. -/
theorem length_padded_two {n : Nat} (h : n < 100) : (Text.padded 2 n).length = 2 :=
  Text.length_padded_of_lt (by decide) h

/-! ## Dates -/

namespace Date

/-- A month without days is none, so a date has a month of the year. -/
theorem month_mem (d : Date) : 1 ≤ d.month ∧ d.month ≤ 12 := by
  have hpos : 0 < daysInMonth d.year d.month := Nat.lt_of_lt_of_le d.day_pos d.day_le
  unfold daysInMonth at hpos
  split at hpos <;> omega

/-- No month is longer than 31 days. -/
theorem day_le_31 (d : Date) : d.day ≤ 31 := by
  refine Nat.le_trans d.day_le ?_
  unfold daysInMonth
  split <;> first | decide | split <;> decide

/-- The characters of a date's text. -/
theorem toList_toText (d : Date) :
    ∃ sign : List Char, (∀ c ∈ sign, c = '-' ∨ c = '+') ∧
      (sign = [] ↔ FourDigitYear d.year) ∧
      d.toText.toList = sign ++ Text.padded 4 d.year.natAbs ++ '-' :: Text.padded 2 d.month ++
        '-' :: Text.padded 2 d.day := by
  unfold toText FourDigitYear
  rw [String.toList_ofList]
  by_cases hneg : d.year < 0
  · rw [if_pos hneg]
    refine ⟨['-'], by simp, ?_, rfl⟩
    exact iff_of_false (by simp) (by omega)
  · rw [if_neg hneg]
    by_cases hlong : 9999 < d.year
    · rw [if_pos hlong]
      refine ⟨['+'], by simp, ?_, rfl⟩
      exact iff_of_false (by simp) (by omega)
    · rw [if_neg hlong]
      exact ⟨[], by simp, iff_of_true rfl (by omega), rfl⟩

/-- A printed date has no white space in it. -/
theorem not_isSpace_of_mem_toText {d : Date} {c : Char} (h : c ∈ d.toText.toList) :
    Text.isSpace c = false := by
  obtain ⟨sign, hsign, _, hchars⟩ := d.toList_toText
  rw [hchars] at h
  simp only [List.mem_append, List.mem_cons] at h
  rcases h with ((h | h) | rfl | h) | rfl | h
  · rcases hsign c h with rfl | rfl
    · decide
    · decide
  · exact Text.not_isSpace_of_isDigit (Text.isDigit_of_mem_padded h)
  · decide
  · exact Text.not_isSpace_of_isDigit (Text.isDigit_of_mem_padded h)
  · decide
  · exact Text.not_isSpace_of_isDigit (Text.isDigit_of_mem_padded h)

/-- Only texts of one length are dates. -/
theorem length_of_ofIsoChars? {cs : List Char} {d : Date} (h : ofIsoChars? cs = some d) :
    cs.length = 10 := by
  unfold ofIsoChars? at h
  split at h
  next => rfl
  next => cases h

/-- A text of the widths of a date is read part by part. -/
theorem ofIsoChars?_append {year month day : List Char} (hy : year.length = 4)
    (hm : month.length = 2) (hd : day.length = 2) :
    ofIsoChars? (year ++ '-' :: month ++ '-' :: day) =
      (Text.readNat? year).bind fun y => (Text.readNat? month).bind fun m =>
        (Text.readNat? day).bind fun d => ofNumbers? y m d := by
  obtain ⟨y1, y2, y3, y4, rfl⟩ := List.length_eq_four.mp hy
  obtain ⟨m1, m2, rfl⟩ := List.length_eq_two.mp hm
  obtain ⟨d1, d2, rfl⟩ := List.length_eq_two.mp hd
  rfl

/-- The numbers of a date are those of a date. -/
theorem ofNumbers?_self (d : Date) : ofNumbers? d.year d.month d.day = some d :=
  dif_pos ⟨d.le_year, d.year_le, d.day_pos, d.day_le⟩

/-- **A printed date is read back if its year has four digits, and not otherwise.** -/
theorem ofIso?_toText (d : Date) :
    ofIso? d.toText = if FourDigitYear d.year then some d else none := by
  have hmonth : (Text.padded 2 d.month).length = 2 :=
    length_padded_two (Nat.lt_of_le_of_lt d.month_mem.2 (by decide))
  have hday : (Text.padded 2 d.day).length = 2 :=
    length_padded_two (Nat.lt_of_le_of_lt d.day_le_31 (by decide))
  obtain ⟨sign, _, hsign, hchars⟩ := d.toList_toText
  unfold ofIso?
  rw [Text.trimChars_eq_self fun c hc => not_isSpace_of_mem_toText hc, hchars]
  by_cases hyear : FourDigitYear d.year
  · have hread : ((d.year.natAbs : Nat) : Int) = d.year := Int.natAbs_of_nonneg hyear.1
    rw [if_pos hyear, hsign.mpr hyear, List.nil_append,
      ofIsoChars?_append (length_padded_year hyear) hmonth hday, Text.readNat?_padded,
      Text.readNat?_padded, Text.readNat?_padded, Option.bind_some, Option.bind_some,
      Option.bind_some, hread, ofNumbers?_self]
  · rw [if_neg hyear]
    cases hnone : ofIsoChars? (sign ++ Text.padded 4 d.year.natAbs ++
        '-' :: Text.padded 2 d.month ++ '-' :: Text.padded 2 d.day) with
    | none => rfl
    | some other =>
      -- with a sign the text is too long, however many digits follow
      exfalso
      have hlength := length_of_ofIsoChars? hnone
      have hpos : 0 < sign.length := by
        rw [List.length_pos_iff]
        exact fun he => hyear (hsign.mp he)
      have hpadded := Text.length_padded 4 d.year.natAbs
      simp only [List.length_append, List.length_cons, hmonth, hday] at hlength
      omega

end Date

/-! ## Months -/

namespace BudgetMonth

/-- A printed month has no white space in it. -/
theorem not_isSpace_of_mem_toText {m : BudgetMonth} {c : Char} (h : c ∈ m.toText.toList) :
    Text.isSpace c = false := by
  unfold toText at h
  rw [String.toList_ofList, List.mem_append, List.mem_cons] at h
  rcases h with h | rfl | h
  · split at h
    next =>
      rcases List.mem_cons.mp h with rfl | h
      · decide
      · exact Text.not_isSpace_of_isDigit (Text.isDigit_of_mem_padded h)
    next => exact Text.not_isSpace_of_isDigit (Text.isDigit_of_mem_padded h)
  · decide
  · exact Text.not_isSpace_of_isDigit (Text.isDigit_of_mem_padded h)

/-- Only texts of one length that start with a digit have the form of a month. -/
theorem of_parts?_eq_some {cs : List Char} {parts : List Char × List Char}
    (h : parts? cs = some parts) :
    cs.length = 7 ∧ ∀ c ∈ cs.head?, Text.isDecimalDigit c = true := by
  unfold parts? at h
  split at h
  next y1 _ _ _ _ _ =>
    split at h
    next hall =>
      refine ⟨rfl, fun c hc => ?_⟩
      cases hc
      exact List.all_eq_true.mp hall y1 (List.mem_cons_self ..)
    next => cases h
  next => cases h

/-- A text of the widths of a month is split into its digits. -/
theorem parts?_append {year month : List Char} (hy : year.length = 4) (hm : month.length = 2)
    (hyear : ∀ c ∈ year, c.isDigit = true) (hmonth : ∀ c ∈ month, c.isDigit = true) :
    parts? (year ++ '-' :: month) = some (year, month) := by
  have hall : (year ++ month).all Text.isDecimalDigit = true := by
    rw [List.all_eq_true]
    intro c hc
    rcases List.mem_append.mp hc with hc | hc
    · exact Text.isDecimalDigit_of_isDigit (hyear c hc)
    · exact Text.isDecimalDigit_of_isDigit (hmonth c hc)
  obtain ⟨y1, y2, y3, y4, rfl⟩ := List.length_eq_four.mp hy
  obtain ⟨m1, m2, rfl⟩ := List.length_eq_two.mp hm
  exact if_pos hall

/-- A month is printed with two digits. -/
theorem length_padded_month (m : BudgetMonth) : (Text.padded 2 m.month).length = 2 :=
  length_padded_two (Nat.lt_of_le_of_lt m.month_mem.2 (by decide))

/-- A month whose year has four digits is printed without a sign. -/
theorem toList_toText {m : BudgetMonth} (h : FourDigitYear m.year) :
    m.toText.toList = Text.padded 4 m.year.natAbs ++ '-' :: Text.padded 2 m.month := by
  unfold toText
  rw [String.toList_ofList, if_neg (Int.not_lt.mpr h.1)]

/-- **A printed month is read back if its year has four digits.** -/
theorem ofText_toText {m : BudgetMonth} (h : FourDigitYear m.year) :
    ofText m.toText = .ok m := by
  have hread : ((m.year.natAbs : Nat) : Int) = m.year := Int.natAbs_of_nonneg h.1
  have hself : ofNumbers? m.year m.month = some m := dif_pos m.month_mem
  unfold ofText
  rw [Text.trimChars_eq_self fun c hc => not_isSpace_of_mem_toText hc, toList_toText h,
    parts?_append (length_padded_year h) m.length_padded_month
      (fun c hc => Text.isDigit_of_mem_padded hc) fun c hc => Text.isDigit_of_mem_padded hc]
  simp only [Text.readNat?_padded, hread, hself]

/-- A printed month with any other year does not have the form of a month. -/
theorem ofText_toText_of_year {m : BudgetMonth} (h : ¬ FourDigitYear m.year) :
    ofText m.toText = .error (.invalidMonth m.toText) := by
  have hnone : parts? m.toText.toList = none := by
    cases hparts : parts? m.toText.toList with
    | none => rfl
    | some parts =>
      exfalso
      obtain ⟨hlength, hhead⟩ := of_parts?_eq_some hparts
      unfold toText at hlength hhead
      rw [String.toList_ofList] at hlength hhead
      by_cases hneg : m.year < 0
      · -- the sign takes the place of a digit
        rw [if_pos hneg] at hhead
        exact absurd (hhead '-' rfl) (by decide)
      · -- or a fifth digit makes the text too long
        rw [if_neg hneg, List.length_append, List.length_cons, m.length_padded_month] at hlength
        have hle : 10000 ≤ m.year.natAbs := by
          unfold FourDigitYear at h
          omega
        have hlong : 4 < (Text.padded 4 m.year.natAbs).length :=
          Text.lt_length_padded_of_le (by decide) hle
        omega
  unfold ofText
  rw [Text.trimChars_eq_self fun c hc => not_isSpace_of_mem_toText hc, hnone]

end BudgetMonth

end BudgetNotes
