import BudgetNotes.Text.Lines
import BudgetNotes.Text.Numeral
import Mathlib.Algebra.Group.Nat.Defs

/-!
# Texts without white space

What the printers write has no white space in it, so the readers that trim it
first see all of it. What is padded has its width, unless the number is too
long for it, and so many digits make no more than so many nines. In one width
every number has one text.

Main statements: `trim_eq_self`, `length_padded_of_lt`,
`ofDigitChars_lt_pow` and `eq_padded_of_readNat?`.
-/

namespace BudgetNotes.Text

/-! ## White space -/

/-- Characters without white space have none to lose. -/
theorem trimChars_eq_self {cs : List Char} (h : ∀ c ∈ cs, isSpace c = false) :
    trimChars cs = cs := by
  have hdrop : ∀ l : List Char, (∀ c ∈ l, isSpace c = false) → l.dropWhile isSpace = l := by
    intro l hl
    cases l with
    | nil => rfl
    | cons c l =>
      rw [List.dropWhile_cons_of_neg]
      rw [hl c (List.mem_cons_self ..)]
      exact Bool.false_ne_true
  unfold trimChars trimEndChars
  rw [hdrop cs h, hdrop cs.reverse fun c hc => h c (List.mem_reverse.mp hc), List.reverse_reverse]

/-- A text without white space is trimmed already. -/
theorem trim_eq_self {s : String} (h : ∀ c ∈ s.toList, isSpace c = false) : trim s = s := by
  unfold trim
  rw [trimChars_eq_self h, String.ofList_toList]

/-- A digit is not white space. -/
theorem not_isSpace_of_isDigit {c : Char} (h : c.isDigit = true) : isSpace c = false := by
  unfold Char.isDigit at h
  rw [Bool.and_eq_true, decide_eq_true_eq, decide_eq_true_eq] at h
  have h1 : 48 ≤ c.toNat := UInt32.le_iff_toNat_le.mp h.1
  have h2 : c.toNat ≤ 57 := UInt32.le_iff_toNat_le.mp h.2
  rw [Bool.eq_false_iff]
  intro hspace
  unfold isSpace at hspace
  simp only [Bool.or_eq_true, Bool.and_eq_true, decide_eq_true_eq, beq_iff_eq] at hspace
  omega

/-! ## Digits -/

/-- A padded number is all digits. -/
theorem isDigit_of_mem_padded {width n : Nat} {c : Char} (h : c ∈ padded width n) :
    c.isDigit = true := by
  unfold padded at h
  rcases List.mem_append.mp h with h | h
  · rw [List.eq_of_mem_replicate h]
    rfl
  · exact Nat.isDigit_of_mem_toDigits (by decide) (by decide) h

/-- A padded number is as wide as asked, or wider if it has to be. -/
theorem length_padded (width n : Nat) :
    (padded width n).length = max width (Nat.toDigits 10 n).length := by
  unfold padded
  rw [List.length_append, List.length_replicate]
  omega

/-- A number that is not too long has the width it is padded to. -/
theorem length_padded_of_lt {width n : Nat} (hwidth : 0 < width) (h : n < 10 ^ width) :
    (padded width n).length = width := by
  have hle := (Nat.length_toDigits_le_iff (by decide) hwidth).mpr h
  rw [length_padded]
  omega

/-- A number that is too long is longer. -/
theorem lt_length_padded_of_le {width n : Nat} (hwidth : 0 < width) (h : 10 ^ width ≤ n) :
    width < (padded width n).length := by
  have hlt : ¬ (Nat.toDigits 10 n).length ≤ width := by
    rw [Nat.length_toDigits_le_iff (by decide) hwidth]
    omega
  rw [length_padded]
  omega

/-- Digits that are read after others move those up. -/
theorem ofDigitChars_padded (width n before : Nat) :
    Nat.ofDigitChars 10 (padded width n) before =
      before * 10 ^ (padded width n).length + n := by
  have hread : Nat.ofDigitChars 10 (padded width n) 0 = n := by
    unfold padded
    rw [Nat.ofDigitChars_append, Nat.ofDigitChars_replicate_zero, Nat.mul_zero,
      Nat.ofDigitChars_ten_toDigits]
  rw [Nat.ofDigitChars_eq_ofDigitChars_zero, hread, Nat.mul_comm]

/-- A digit is worth less than ten. -/
theorem digitValue_lt {c : Char} (h : c.isDigit = true) : digitValue c < 10 := by
  unfold Char.isDigit at h
  rw [Bool.and_eq_true, decide_eq_true_eq, decide_eq_true_eq] at h
  have hle : c.toNat ≤ 57 := UInt32.le_iff_toNat_le.mp h.2
  unfold digitValue
  omega

/-- The first digit counts as many times as the digits after it can. -/
theorem ofDigitChars_cons_zero (c : Char) (digits : List Char) :
    Nat.ofDigitChars 10 (c :: digits) 0 =
      10 ^ digits.length * digitValue c + Nat.ofDigitChars 10 digits 0 := by
  rw [Nat.ofDigitChars_cons, Nat.mul_zero, Nat.zero_add, Nat.ofDigitChars_eq_ofDigitChars_zero]
  rfl

/-- So many digits stay below the power of ten with so many zeros. -/
theorem ofDigitChars_lt_pow {digits : List Char} (h : ∀ c ∈ digits, c.isDigit = true) :
    Nat.ofDigitChars 10 digits 0 < 10 ^ digits.length := by
  induction digits with
  | nil => exact Nat.pow_pos (by decide)
  | cons c digits ih =>
    have hrest := ih fun d hd => h d (List.mem_cons_of_mem _ hd)
    have hc := digitValue_lt (h c (List.mem_cons_self ..))
    have hle : 10 ^ digits.length * digitValue c ≤ 10 ^ digits.length * 9 :=
      Nat.mul_le_mul_left _ (by omega)
    rw [ofDigitChars_cons_zero, List.length_cons, Nat.pow_succ]
    omega

/-- A number that was read has no more digits than its text. -/
theorem lt_of_readNat? {digits : List Char} {n : Nat} (h : readNat? digits = some n) :
    n < 10 ^ digits.length := by
  unfold readNat? at h
  split at h
  next hdigits =>
    rw [Bool.and_eq_true, List.all_eq_true] at hdigits
    cases h
    exact ofDigitChars_lt_pow hdigits.2
  next => cases h

/-! ## One text for each number -/

/-- Digits come from the code of zero on. -/
theorem le_toNat_of_isDigit {c : Char} (h : c.isDigit = true) : 48 ≤ c.toNat := by
  unfold Char.isDigit at h
  rw [Bool.and_eq_true, decide_eq_true_eq, decide_eq_true_eq] at h
  exact UInt32.le_iff_toNat_le.mp h.1

/-- A digit is known by its value. -/
theorem eq_of_digitValue_eq {c d : Char} (hc : c.isDigit = true) (hd : d.isDigit = true)
    (h : digitValue c = digitValue d) : c = d := by
  have h1 := le_toNat_of_isDigit hc
  have h2 := le_toNat_of_isDigit hd
  unfold digitValue at h
  have hnat : c.toNat = d.toNat := by omega
  exact Char.toNat_inj.mp hnat

/-- As many digits with the same value are the same digits. -/
theorem eq_of_ofDigitChars_eq {xs ys : List Char} (hxs : ∀ c ∈ xs, c.isDigit = true)
    (hys : ∀ c ∈ ys, c.isDigit = true) (hlength : xs.length = ys.length)
    (h : Nat.ofDigitChars 10 xs 0 = Nat.ofDigitChars 10 ys 0) : xs = ys := by
  induction xs generalizing ys with
  | nil => exact (List.length_eq_zero_iff.mp hlength.symm).symm
  | cons x xs ih =>
    cases ys with
    | nil => cases hlength
    | cons y ys =>
      have hxs' : ∀ c ∈ xs, c.isDigit = true := fun c hc => hxs c (List.mem_cons_of_mem _ hc)
      have hys' : ∀ c ∈ ys, c.isDigit = true := fun c hc => hys c (List.mem_cons_of_mem _ hc)
      have hrest : xs.length = ys.length := Nat.succ.inj hlength
      have hx := ofDigitChars_lt_pow hxs'
      have hy := ofDigitChars_lt_pow hys'
      rw [ofDigitChars_cons_zero, ofDigitChars_cons_zero, ← hrest] at h
      rw [← hrest] at hy
      -- the digits after the first are what is left when the power is divided by
      have hlow : Nat.ofDigitChars 10 xs 0 = Nat.ofDigitChars 10 ys 0 := by
        have hmod := congrArg (· % 10 ^ xs.length) h
        rwa [Nat.mul_add_mod, Nat.mul_add_mod, Nat.mod_eq_of_lt hx, Nat.mod_eq_of_lt hy] at hmod
      have hhigh : digitValue x = digitValue y := by
        rw [hlow] at h
        exact Nat.eq_of_mul_eq_mul_left (Nat.pow_pos (by decide)) (Nat.add_right_cancel h)
      rw [ih hxs' hys' hrest hlow, eq_of_digitValue_eq (hxs x (List.mem_cons_self ..))
        (hys y (List.mem_cons_self ..)) hhigh]

/-- What is read is the number of a text of digits, and of no other text. -/
theorem readNat?_eq_some_iff {digits : List Char} {n : Nat} :
    readNat? digits = some n ↔
      digits ≠ [] ∧ (∀ c ∈ digits, c.isDigit = true) ∧ Nat.ofDigitChars 10 digits 0 = n := by
  unfold readNat?
  rw [Option.ite_none_right_eq_some, Bool.and_eq_true, Bool.not_eq_true', List.isEmpty_eq_false_iff,
    List.all_eq_true, Option.some.injEq, and_assoc]

/-- Digits that were read are the number, padded to their width. -/
theorem eq_padded_of_readNat? {digits : List Char} {n : Nat} (h : readNat? digits = some n) :
    digits = padded digits.length n := by
  obtain ⟨hne, hdigits, hvalue⟩ := readNat?_eq_some_iff.mp h
  obtain ⟨_, _, hpadded⟩ := readNat?_eq_some_iff.mp (readNat?_padded digits.length n)
  have hlength : (padded digits.length n).length = digits.length :=
    length_padded_of_lt (List.length_pos_iff.mpr hne) (lt_of_readNat? h)
  refine eq_of_ofDigitChars_eq hdigits (fun c hc => isDigit_of_mem_padded hc) hlength.symm ?_
  rw [hvalue, hpadded]

end BudgetNotes.Text
