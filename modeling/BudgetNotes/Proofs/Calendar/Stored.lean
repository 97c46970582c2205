import BudgetNotes.Proofs.Calendar.Text

/-!
# Stored dates

A date is stored as it is printed, and storage reads what typing does not: a
year with a sign may have any number of digits. So every date there is comes
back, whatever its year.

Main statement: `Date.ofStored?_toText`.
-/

namespace BudgetNotes

namespace Text

/-- The digits of a number end where something else follows. -/
theorem takeWhile_isDigit_padded {rest : List Char} (hrest : ∀ c ∈ rest.head?, c.isDigit = false)
    (width n : Nat) : (padded width n ++ rest).takeWhile Char.isDigit = padded width n := by
  rw [List.takeWhile_append_of_pos fun c hc => isDigit_of_mem_padded hc]
  cases rest with
  | nil => exact List.append_nil _
  | cons c rest =>
    rw [List.takeWhile_cons_of_neg (Bool.eq_false_iff.mp (hrest c rfl)), List.append_nil]

/-- A padded number starts with a digit. -/
theorem exists_padded_eq (width n : Nat) :
    ∃ c cs, padded width n = c :: cs ∧ c.isDigit = true := by
  have hne : padded width n ≠ [] := by
    unfold padded
    exact List.append_ne_nil_of_right_ne_nil _ Nat.toDigits_ne_nil
  obtain ⟨c, cs, hcons⟩ := List.exists_cons_of_ne_nil hne
  exact ⟨c, cs, hcons, isDigit_of_mem_padded (hcons ▸ List.mem_cons_self ..)⟩

/-- A padded number does not start with white space. -/
theorem dropWhile_isSpace_padded (width n : Nat) (rest : List Char) :
    (padded width n ++ rest).dropWhile isSpace = padded width n ++ rest := by
  obtain ⟨c, cs, hcons, hdigit⟩ := exists_padded_eq width n
  have hc : isSpace c = false := not_isSpace_of_isDigit hdigit
  rw [hcons, List.cons_append, List.dropWhile_cons_of_neg (Bool.eq_false_iff.mp hc)]

end Text

namespace Date

/-- A number that is no longer than may be taken is taken, up to what is no digit. -/
theorem takeNumber?_padded {most width n : Nat} {rest : List Char}
    (hmost : (Text.padded width n).length ≤ most) (hrest : ∀ c ∈ rest.head?, c.isDigit = false) :
    takeNumber? most (Text.padded width n ++ rest) = some (n, rest) := by
  have hhead : ∀ c ∈ (rest.take (most - (Text.padded width n).length)).head?,
      c.isDigit = false := by
    intro c hc
    rw [List.head?_take] at hc
    split at hc
    next => cases hc
    next => exact hrest c hc
  have hdigits : ((Text.padded width n ++ rest).take most).takeWhile Char.isDigit =
      Text.padded width n := by
    rw [List.take_append, List.take_of_length_le hmost, Text.takeWhile_isDigit_padded hhead]
  unfold takeNumber?
  dsimp only
  rw [Text.dropWhile_isSpace_padded, hdigits, Text.readNat?_padded, List.drop_left]
  rfl

/-- A dash is taken without white space before it. -/
theorem takeDash?_dash (rest : List Char) : takeDash? ('-' :: rest) = some rest := by
  have hdash : ('-' :: rest).dropWhile Text.isSpace = '-' :: rest :=
    List.dropWhile_cons_of_neg (by decide)
  unfold takeDash?
  rw [hdash]
  rfl

/-- After a sign all digits are taken. -/
theorem takeNumber?_signed (n : Nat) (rest : List Char) :
    takeNumber? (Text.padded 4 n ++ '-' :: rest).length (Text.padded 4 n ++ '-' :: rest) =
      some (n, '-' :: rest) := by
  refine takeNumber?_padded ?_ ?_
  · rw [List.length_append]
    exact Nat.le_add_right _ _
  · rintro c ⟨⟩
    rfl

/-- A padded number starts with a digit. -/
theorem any_isDigit_head?_padded (width n : Nat) (rest : List Char) :
    (Text.padded width n ++ rest).head?.any Char.isDigit = true := by
  obtain ⟨c, cs, hcons, hdigit⟩ := Text.exists_padded_eq width n
  rw [hcons]
  exact hdigit

/-- A year before the year zero has a sign, and as many digits as it needs. -/
theorem takeYear?_minus (n : Nat) (rest : List Char) :
    takeYear? ('-' :: (Text.padded 4 n ++ '-' :: rest)) = some (-(n : Int), '-' :: rest) := by
  have hsign : ('-' :: (Text.padded 4 n ++ '-' :: rest)).dropWhile Text.isSpace =
      '-' :: (Text.padded 4 n ++ '-' :: rest) := List.dropWhile_cons_of_neg (by decide)
  unfold takeYear?
  rw [hsign]
  show (if (Text.padded 4 n ++ '-' :: rest).head?.any Char.isDigit then _ else _) = _
  rw [if_pos (any_isDigit_head?_padded 4 n _), takeNumber?_signed]
  rfl

/-- So has a year with more than four digits. -/
theorem takeYear?_plus (n : Nat) (rest : List Char) :
    takeYear? ('+' :: (Text.padded 4 n ++ '-' :: rest)) = some ((n : Int), '-' :: rest) := by
  have hsign : ('+' :: (Text.padded 4 n ++ '-' :: rest)).dropWhile Text.isSpace =
      '+' :: (Text.padded 4 n ++ '-' :: rest) := List.dropWhile_cons_of_neg (by decide)
  unfold takeYear?
  rw [hsign]
  show (if (Text.padded 4 n ++ '-' :: rest).head?.any Char.isDigit then _ else _) = _
  rw [if_pos (any_isDigit_head?_padded 4 n _), takeNumber?_signed]
  rfl

/-- Without a sign there may be four digits only. -/
theorem takeYear?_unsigned {n : Nat} (h : (Text.padded 4 n).length ≤ 4) (rest : List Char) :
    takeYear? (Text.padded 4 n ++ '-' :: rest) = some ((n : Int), '-' :: rest) := by
  obtain ⟨c, cs, hcons, hdigit⟩ := Text.exists_padded_eq 4 n
  have htake : takeNumber? 4 (Text.padded 4 n ++ '-' :: rest) = some (n, '-' :: rest) := by
    refine takeNumber?_padded h ?_
    rintro c ⟨⟩
    rfl
  unfold takeYear?
  rw [Text.dropWhile_isSpace_padded]
  split
  next heq =>
    rw [hcons] at heq
    cases heq
    exact absurd hdigit (by decide)
  next heq =>
    rw [hcons] at heq
    cases heq
    exact absurd hdigit (by decide)
  next =>
    rw [htake]
    rfl

/-- A year is taken as it is printed: with its sign, or in four digits. -/
theorem takeYear?_year (year : Int) (rest : List Char) :
    takeYear? ((if year < 0 then '-' :: Text.padded 4 year.natAbs
      else if 9999 < year then '+' :: Text.padded 4 year.natAbs
      else Text.padded 4 year.natAbs) ++ '-' :: rest) = some (year, '-' :: rest) := by
  by_cases hneg : year < 0
  · have hyear : -((year.natAbs : Nat) : Int) = year := by omega
    rw [if_pos hneg, List.cons_append, takeYear?_minus, hyear]
  · have hyear : ((year.natAbs : Nat) : Int) = year := by omega
    rw [if_neg hneg]
    by_cases hlong : 9999 < year
    · rw [if_pos hlong, List.cons_append, takeYear?_plus, hyear]
    · have hfour : FourDigitYear year := ⟨by omega, by omega⟩
      rw [if_neg hlong, takeYear?_unsigned (Nat.le_of_eq (length_padded_year hfour)), hyear]

/-- **Every stored date is read back**, whatever its year. -/
theorem ofStored?_toText (d : Date) : ofStored? d.toText = some d := by
  have hdash : ∀ c ∈ ('-' :: Text.padded 2 d.day).head?, c.isDigit = false := by
    rintro c ⟨⟩
    rfl
  have hmonth := takeNumber?_padded
    (Nat.le_of_eq (length_padded_two (Nat.lt_of_le_of_lt d.month_mem.2 (by decide)))) hdash
  have hday : takeNumber? 2 (Text.padded 2 d.day ++ []) = some (d.day, []) :=
    takeNumber?_padded
      (Nat.le_of_eq (length_padded_two (Nat.lt_of_le_of_lt d.day_le_31 (by decide))))
      fun c hc => nomatch hc
  rw [List.append_nil] at hday
  have hyear := takeYear?_year d.year (Text.padded 2 d.month ++ '-' :: Text.padded 2 d.day)
  unfold ofStored? toText
  rw [String.toList_ofList]
  simp only [List.append_assoc, List.cons_append]
  rw [hyear]
  simp only [Option.bind_eq_bind, Option.bind_some, takeDash?_dash, hmonth, hday]
  exact ofNumbers?_self d

end Date

end BudgetNotes
