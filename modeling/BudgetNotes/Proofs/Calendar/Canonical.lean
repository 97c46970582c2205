import BudgetNotes.Proofs.Calendar.Reading

/-!
# One text for every date and month

Digits are read in one width, so what was read is the number padded to that
width (`eq_padded_of_readNat?`), and the numbers tell the text. Around it there
may be white space, and nothing else: a text is read as a date exactly if it is
the date's own `YYYY-MM-DD`, and as a month exactly if it is what the month is
printed as. The numbers are taken as they stand, so those that name no day are
refused.

> `Date.ofIso?_of_trim_eq`: what is read of any text of this form.

Main statement: `read_iff_canonical`.
-/

namespace BudgetNotes

/-! ## Texts of numbers -/

namespace Text

/-- The last digits of a number, so many of them. -/
def lastDigits : Nat → Nat → List Char
  | 0, _ => []
  | width + 1, n => lastDigits width (n / 10) ++ [Nat.digitChar (n % 10)]

theorem digitChar_spec {k : Nat} (h : k < 10) :
    (Nat.digitChar k).isDigit = true ∧ (Nat.digitChar k).toNat - 48 = k := by
  have hall : ∀ k < 10, (Nat.digitChar k).isDigit = true ∧ (Nat.digitChar k).toNat - 48 = k := by
    decide
  exact hall k h

theorem length_lastDigits (width n : Nat) : (lastDigits width n).length = width := by
  induction width generalizing n with
  | zero => rfl
  | succ width ih =>
    rw [lastDigits, List.length_append, ih]
    rfl

theorem isDigit_of_mem_lastDigits {width n : Nat} {c : Char} (h : c ∈ lastDigits width n) :
    c.isDigit = true := by
  induction width generalizing n with
  | zero => cases h
  | succ width ih =>
    rcases List.mem_append.mp h with h | h
    · exact ih h
    · rw [List.mem_singleton.mp h]
      exact (digitChar_spec (Nat.mod_lt n (by decide))).1

/-- They are all of it if it is short enough. -/
theorem ofDigitChars_lastDigits {width n : Nat} (h : n < 10 ^ width) :
    Nat.ofDigitChars 10 (lastDigits width n) 0 = n := by
  induction width generalizing n with
  | zero =>
    rw [Nat.pow_zero] at h
    have hzero : n = 0 := by omega
    rw [hzero]
    rfl
  | succ width ih =>
    rw [Nat.pow_succ] at h
    have hrest := ih (n := n / 10) (by omega)
    have hlast := (digitChar_spec (Nat.mod_lt n (show 0 < 10 by decide))).2
    have hzero : '0'.toNat = 48 := rfl
    rw [lastDigits, Nat.ofDigitChars_append, hrest, Nat.ofDigitChars_cons, hzero, hlast]
    show 10 * (n / 10) + n % 10 = n
    omega

theorem readNat?_lastDigits {width n : Nat} (hwidth : 0 < width) (h : n < 10 ^ width) :
    readNat? (lastDigits width n) = some n := by
  have hne : lastDigits width n ≠ [] := by
    rw [← List.length_pos_iff, length_lastDigits]
    exact hwidth
  exact readNat?_eq_some_iff.mpr
    ⟨hne, fun c hc => isDigit_of_mem_lastDigits hc, ofDigitChars_lastDigits h⟩

/-- What was read has no other digits than the number. -/
theorem eq_lastDigits_of_readNat? {digits : List Char} {n : Nat} (h : readNat? digits = some n) :
    digits = lastDigits digits.length n := by
  have hwidth : 0 < digits.length := List.length_pos_iff.mpr (readNat?_eq_some_iff.mp h).1
  have hself := eq_padded_of_readNat? (readNat?_lastDigits hwidth (lt_of_readNat? h))
  rw [length_lastDigits] at hself
  rw [hself]
  exact eq_padded_of_readNat? h

theorem toList_trim (s : String) : (trim s).toList = trimChars s.toList := by
  unfold trim
  rw [String.toList_ofList]

end Text

/-! ## Dates -/

/-- A day as `YYYY-MM-DD`, in ASCII digits with zeros in front. -/
def isoText (year month day : Nat) : String :=
  String.ofList (Text.lastDigits 4 year ++ '-' :: Text.lastDigits 2 month ++
    '-' :: Text.lastDigits 2 day)

namespace Date

/-- The numbers are taken as they stand. -/
theorem ofIso?_of_trim_eq {s : String} {year month day : Nat} (hyear : year < 10 ^ 4)
    (hmonth : month < 10 ^ 2) (hday : day < 10 ^ 2) (h : Text.trim s = isoText year month day) :
    ofIso? s = ofNumbers? year month day := by
  have hchars : Text.trimChars s.toList = Text.lastDigits 4 year ++
      '-' :: Text.lastDigits 2 month ++ '-' :: Text.lastDigits 2 day := by
    rw [← Text.toList_trim, h, isoText, String.toList_ofList]
  unfold ofIso?
  rw [hchars, ofIsoChars?_append (Text.length_lastDigits 4 year) (Text.length_lastDigits 2 month)
      (Text.length_lastDigits 2 day), Text.readNat?_lastDigits (by decide) hyear,
    Text.readNat?_lastDigits (by decide) hmonth, Text.readNat?_lastDigits (by decide) hday]
  rfl

/-- What was read as a date is its text. -/
theorem trim_eq_of_ofIso? {s : String} {d : Date} (h : ofIso? s = some d) :
    Text.trim s = isoText d.year.toNat d.month d.day := by
  rw [← String.toList_inj, Text.toList_trim, isoText, String.toList_ofList]
  unfold ofIso? ofIsoChars? at h
  split at h
  next y1 y2 y3 y4 m1 m2 d1 d2 hchars =>
    obtain ⟨year, hyear, h⟩ := Option.bind_eq_some_iff.mp h
    obtain ⟨month, hmonth, h⟩ := Option.bind_eq_some_iff.mp h
    obtain ⟨day, hday, h⟩ := Option.bind_eq_some_iff.mp h
    obtain ⟨hy, hm, hd⟩ := numbers_of_ofNumbers? h
    have hyears : [y1, y2, y3, y4] = Text.lastDigits 4 year := Text.eq_lastDigits_of_readNat? hyear
    have hmonths : [m1, m2] = Text.lastDigits 2 month := Text.eq_lastDigits_of_readNat? hmonth
    have hdays : [d1, d2] = Text.lastDigits 2 day := Text.eq_lastDigits_of_readNat? hday
    rw [hchars, hy, hm, hd, Int.toNat_natCast, ← hyears, ← hmonths, ← hdays]
    rfl
  next => cases h

/-- A text is read as a date if it is the date's own, and not otherwise. -/
theorem ofIso?_eq_some_iff {s : String} {d : Date} :
    ofIso? s = some d ↔
      FourDigitYear d.year ∧ Text.trim s = isoText d.year.toNat d.month d.day := by
  constructor
  · intro h
    exact ⟨fourDigitYear_of_ofIso? h, trim_eq_of_ofIso? h⟩
  · intro ⟨hyear, h⟩
    have hlt : d.year.toNat < 10 ^ 4 := by
      have hle := hyear.2
      show d.year.toNat < 10000
      omega
    have hmonth : d.month < 10 ^ 2 := Nat.lt_of_le_of_lt d.month_mem.2 (by decide)
    have hday : d.day < 10 ^ 2 := Nat.lt_of_le_of_lt d.day_le_31 (by decide)
    rw [ofIso?_of_trim_eq hlt hmonth hday h, Int.toNat_of_nonneg hyear.1, ofNumbers?_self]

/-- Numbers that name no day are refused. -/
theorem ofIso?_eq_none_of_trim_eq {s : String} {year month day : Nat} (hyear : year < 10 ^ 4)
    (hmonth : month < 10 ^ 2) (hday : day < 10 ^ 2)
    (hno : ¬ (1 ≤ day ∧ day ≤ daysInMonth year month))
    (h : Text.trim s = isoText year month day) : ofIso? s = none := by
  rw [ofIso?_of_trim_eq hyear hmonth hday h]
  unfold ofNumbers?
  exact dif_neg fun hall => hno hall.2.2

end Date

/-! ## Months -/

namespace BudgetMonth

/-- A text is read as a month if it is what the month is printed as, and not otherwise. -/
theorem ofText_eq_ok_iff_trim_eq {s : String} {m : BudgetMonth} :
    ofText s = .ok m ↔ FourDigitYear m.year ∧ Text.trim s = m.toText := by
  constructor
  · intro h
    have hfour := fourDigitYear_of_ofText h
    refine ⟨hfour, ?_⟩
    obtain ⟨yearDigits, monthDigits, year, month, hparts, hyear, hmonth, hnumbers⟩ :=
      ofText_eq_ok_iff.mp h
    obtain ⟨hchars, hy, hm⟩ := append_of_parts? hparts
    obtain ⟨hyearEq, hmonthEq⟩ := numbers_of_ofNumbers? hnumbers
    have hyears := Text.eq_padded_of_readNat? hyear
    have hmonths := Text.eq_padded_of_readNat? hmonth
    rw [hy] at hyears
    rw [hm] at hmonths
    rw [← String.toList_inj, Text.toList_trim, toList_toText hfour, hchars, hyearEq, hmonthEq,
      Int.natAbs_natCast, ← hyears, ← hmonths]
  · intro ⟨hfour, h⟩
    have hread : ((m.year.natAbs : Nat) : Int) = m.year := Int.natAbs_of_nonneg hfour.1
    have hself : ofNumbers? m.year m.month = some m := dif_pos m.month_mem
    refine ofText_eq_ok_iff.mpr ⟨_, _, m.year.natAbs, m.month, ?_, Text.readNat?_padded 4 _,
      Text.readNat?_padded 2 _, by rw [hread, hself]⟩
    rw [← Text.toList_trim, h, toList_toText hfour]
    exact parts?_append (length_padded_year hfour) m.length_padded_month
      (fun c hc => Text.isDigit_of_mem_padded hc) fun c hc => Text.isDigit_of_mem_padded hc

end BudgetMonth

/-! ## Both -/

/-- **Dates and months are read from their canonical texts, and from nothing else.** Without the
white space around it, a text that is read is the one text of the date or month; so no two such
texts are read alike, and numbers that name no day are not read as another one. -/
theorem read_iff_canonical :
    (∀ s d, Date.ofIso? s = some d ↔
      FourDigitYear d.year ∧ Text.trim s = isoText d.year.toNat d.month d.day) ∧
    (∀ s m, BudgetMonth.ofText s = .ok m ↔ FourDigitYear m.year ∧ Text.trim s = m.toText) ∧
    (∀ s s' d, Date.ofIso? s = some d → Date.ofIso? s' = some d → Text.trim s = Text.trim s') ∧
    (∀ s s' m, BudgetMonth.ofText s = .ok m → BudgetMonth.ofText s' = .ok m →
      Text.trim s = Text.trim s') ∧
    ∀ (s : String) (year month day : Nat), year < 10000 → month < 100 → day < 100 →
      ¬ (1 ≤ day ∧ day ≤ daysInMonth year month) → Text.trim s = isoText year month day →
      Date.ofIso? s = none := by
  refine ⟨fun s d => Date.ofIso?_eq_some_iff, fun s m => BudgetMonth.ofText_eq_ok_iff_trim_eq,
    fun s s' d h h' => ?_, fun s s' m h h' => ?_, fun s year month day hyear hmonth hday => ?_⟩
  · rw [Date.trim_eq_of_ofIso? h, Date.trim_eq_of_ofIso? h']
  · rw [(BudgetMonth.ofText_eq_ok_iff_trim_eq.mp h).2,
      (BudgetMonth.ofText_eq_ok_iff_trim_eq.mp h').2]
  · exact Date.ofIso?_eq_none_of_trim_eq hyear hmonth hday

/-- A leap day with white space around it on either side, the day after the last of February, and a
month. -/
theorem read_iff_canonical_leap :
    let leap : Date := ⟨2024, 2, 29, by decide, by decide, by decide, by decide⟩
    let march : BudgetMonth := ⟨2025, 3, by decide⟩
    Date.ofIso? " 2024-02-29" = some leap ∧ Date.ofIso? "2024-02-29\t" = some leap ∧
    Text.trim " 2024-02-29" = Text.trim "2024-02-29\t" ∧
    ¬ (1 ≤ 29 ∧ 29 ≤ daysInMonth (2023 : Nat) 2) ∧ Date.ofIso? "2023-02-29" = none ∧
    BudgetMonth.ofText "2025-03\n" = .ok march := by
  intro leap march
  obtain ⟨hdate, hmonth, hsame, _, hno⟩ := read_iff_canonical
  have hleap : FourDigitYear leap.year := by decide
  have hbefore : Date.ofIso? " 2024-02-29" = some leap :=
    (hdate _ leap).mpr ⟨hleap, by decide +kernel⟩
  have hafter : Date.ofIso? "2024-02-29\t" = some leap :=
    (hdate _ leap).mpr ⟨hleap, by decide +kernel⟩
  have hshort : ¬ (1 ≤ 29 ∧ 29 ≤ daysInMonth (2023 : Nat) 2) := by decide
  refine ⟨hbefore, hafter, hsame _ _ leap hbefore hafter, hshort, ?_, ?_⟩
  · exact hno _ 2023 2 29 (by decide) (by decide) (by decide) hshort (by decide +kernel)
  · exact (hmonth _ march).mpr ⟨by decide, by decide +kernel⟩

end BudgetNotes
