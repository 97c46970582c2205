import BudgetNotes.Decimal.Reader
import BudgetNotes.Decimal.Basic
import BudgetNotes.Proofs.Text.Numerals

/-!
# Printed decimals are read back

A decimal is printed with all its places, and reading takes one digit after
the other into the same mantissa. As long as the mantissa fits, nothing is
rounded: what is read after some digits is the number of these digits, with a
place for each of those after the point.

> `readDigits_append`, `readPlaces_append`: reading a run of digits that fits.

Main statements: `ofText_toText` for every decimal, and `ofTyped_toText` for
all but the negative zeros, which reading does not make.
-/

namespace BudgetNotes.Decimal

theorem toChars_eq (x : Decimal) :
    x.toChars = (if x.negative then ['-'] else []) ++ Nat.toDigits 10 (x.mantissa / 10 ^ x.scale) ++
      (if x.scale = 0 then [] else '.' :: Text.padded x.scale (x.mantissa % 10 ^ x.scale)) := rfl

theorem eq_of_parts {x y : Decimal} (hnegative : x.negative = y.negative)
    (hmantissa : x.mantissa = y.mantissa) (hscale : x.scale = y.scale) : x = y := by
  cases x
  cases y
  subst hnegative hmantissa hscale
  rfl

/-! ## Runs of digits -/

/-- What was read so far is no more than what is read in the end. -/
theorem le_ofDigitChars (digits : List Char) (n : Nat) : n ≤ Nat.ofDigitChars 10 digits n := by
  rw [Nat.ofDigitChars_eq_ofDigitChars_zero]
  have hpos : 0 < 10 ^ digits.length := Nat.pow_pos (by decide)
  have hle : n ≤ 10 ^ digits.length * n := Nat.le_mul_of_pos_left n hpos
  omega

theorem ofDigitChars_cons_eq (c : Char) (digits : List Char) (n : Nat) :
    Nat.ofDigitChars 10 (c :: digits) n =
      Nat.ofDigitChars 10 digits (n * 10 + Text.digitValue c) := by
  rw [Nat.ofDigitChars_cons, Nat.mul_comm]
  rfl

theorem appendDigit?_of_le {x : Decimal} {d : Nat} (h : x.mantissa * 10 + d ≤ maxMantissa) :
    ∃ z, x.appendDigit? d = some z ∧ z.negative = x.negative ∧
      z.mantissa = x.mantissa * 10 + d ∧ z.scale = x.scale := by
  unfold appendDigit?
  rw [dif_pos h]
  exact ⟨_, rfl, rfl, rfl, rfl⟩

theorem appendPlace?_of_le {x : Decimal} {d : Nat} (h : x.mantissa * 10 + d ≤ maxMantissa)
    (hscale : x.scale + 1 ≤ maxScale) :
    ∃ z, x.appendPlace? d = some z ∧ z.negative = x.negative ∧
      z.mantissa = x.mantissa * 10 + d ∧ z.scale = x.scale + 1 := by
  unfold appendPlace?
  rw [dif_pos ⟨h, hscale⟩]
  exact ⟨_, rfl, rfl, rfl, rfl⟩

/-- Digits before the point, to a number whose mantissa can hold them. -/
theorem readDigits_append {x y : Decimal} {digits : List Char}
    (hdigits : ∀ c ∈ digits, c.isDigit = true) (seen : Bool) (rest : List Char)
    (hnegative : y.negative = x.negative)
    (hmantissa : y.mantissa = Nat.ofDigitChars 10 digits x.mantissa) (hscale : y.scale = x.scale) :
    readDigits x seen (digits ++ rest) = readDigits y (seen || !digits.isEmpty) rest := by
  induction digits generalizing x seen with
  | nil =>
    have hxy : x = y := eq_of_parts hnegative.symm hmantissa.symm hscale.symm
    rw [hxy, List.nil_append, List.isEmpty_nil, Bool.not_true, Bool.or_false]
  | cons c digits ih =>
    have hc : c.isDigit = true := hdigits c (List.mem_cons_self ..)
    rw [ofDigitChars_cons_eq] at hmantissa
    -- all digits together fit, so this one does
    have hfits : x.mantissa * 10 + Text.digitValue c ≤ maxMantissa := by
      have hle := le_ofDigitChars digits (x.mantissa * 10 + Text.digitValue c)
      rw [← hmantissa] at hle
      exact Nat.le_trans hle y.mantissa_le
    obtain ⟨z, happend, hznegative, hzmantissa, hzscale⟩ := appendDigit?_of_le hfits
    have hrest := ih (fun d hd => hdigits d (List.mem_cons_of_mem _ hd)) true
      (hnegative.trans hznegative.symm) (by rw [hzmantissa, hmantissa])
      (hscale.trans hzscale.symm)
    rw [List.cons_append, readDigits, if_pos hc, happend]
    simp only
    rw [hrest, Bool.true_or, List.isEmpty_cons, Bool.not_false, Bool.or_true]

/-- Digits after the point, each of which is one place more. -/
theorem readPlaces_append {x y : Decimal} {digits : List Char}
    (hdigits : ∀ c ∈ digits, c.isDigit = true) (seen : Bool) (rest : List Char)
    (hnegative : y.negative = x.negative)
    (hmantissa : y.mantissa = Nat.ofDigitChars 10 digits x.mantissa)
    (hscale : y.scale = x.scale + digits.length) :
    readPlaces x seen (digits ++ rest) = readPlaces y (seen || !digits.isEmpty) rest := by
  induction digits generalizing x seen with
  | nil =>
    have hxy : x = y := eq_of_parts hnegative.symm hmantissa.symm hscale.symm
    rw [hxy, List.nil_append, List.isEmpty_nil, Bool.not_true, Bool.or_false]
  | cons c digits ih =>
    have hc : c.isDigit = true := hdigits c (List.mem_cons_self ..)
    rw [ofDigitChars_cons_eq] at hmantissa
    rw [List.length_cons] at hscale
    have hfits : x.mantissa * 10 + Text.digitValue c ≤ maxMantissa := by
      have hle := le_ofDigitChars digits (x.mantissa * 10 + Text.digitValue c)
      rw [← hmantissa] at hle
      exact Nat.le_trans hle y.mantissa_le
    have hplaces : x.scale + 1 ≤ maxScale := by
      have hle : y.scale ≤ maxScale := y.scale_le
      omega
    obtain ⟨z, happend, hznegative, hzmantissa, hzscale⟩ := appendPlace?_of_le hfits hplaces
    have hrest := ih (fun d hd => hdigits d (List.mem_cons_of_mem _ hd)) true
      (hnegative.trans hznegative.symm) (by rw [hzmantissa, hmantissa]) (by omega)
    rw [List.cons_append, readPlaces, if_pos hc, happend]
    simp only
    rw [hrest, Bool.true_or, List.isEmpty_cons, Bool.not_false, Bool.or_true]

/-! ## Whole texts -/

/-- A number without sign is read back digit by digit. -/
theorem readDigits_toChars {x : Decimal} (h : x.negative = false) :
    readDigits zero false x.toChars = .ok x := by
  have hwhole : x.mantissa / 10 ^ x.scale ≤ maxMantissa :=
    Nat.le_trans (Nat.div_le_self ..) x.mantissa_le
  have hread := readDigits_append (x := zero)
    (y := ⟨false, x.mantissa / 10 ^ x.scale, 0, hwhole, Nat.zero_le _⟩)
    (fun c hc => Nat.isDigit_of_mem_toDigits (by decide) (by decide) hc) false
    (if x.scale = 0 then [] else '.' :: Text.padded x.scale (x.mantissa % 10 ^ x.scale)) rfl
    Nat.ofDigitChars_ten_toDigits.symm rfl
  have hdigits : (Nat.toDigits 10 (x.mantissa / 10 ^ x.scale)).isEmpty = false :=
    List.isEmpty_eq_false_iff.mpr Nat.toDigits_ne_nil
  rw [toChars_eq, h, if_neg Bool.false_ne_true, List.nil_append, hread, hdigits, Bool.not_false,
    Bool.or_true]
  split
  next hscale =>
    rw [readDigits, if_pos rfl]
    refine congrArg Except.ok (eq_of_parts h.symm ?_ hscale.symm)
    show x.mantissa / 10 ^ x.scale = x.mantissa
    rw [hscale, Nat.pow_zero, Nat.div_one]
  next hscale =>
    have hlength : (Text.padded x.scale (x.mantissa % 10 ^ x.scale)).length = x.scale :=
      Text.length_padded_of_lt (Nat.pos_of_ne_zero hscale) (Nat.mod_lt _ (Nat.pow_pos (by decide)))
    have hplaces := readPlaces_append (x := ⟨false, x.mantissa / 10 ^ x.scale, 0, hwhole,
      Nat.zero_le _⟩) (y := x) (fun c hc => Text.isDigit_of_mem_padded hc) true [] h
      (by
        rw [Text.ofDigitChars_padded, hlength]
        exact (Nat.div_add_mod' x.mantissa (10 ^ x.scale)).symm)
      (by rw [hlength, Nat.zero_add])
    rw [readDigits, if_neg (by decide), if_pos rfl]
    rw [List.append_nil] at hplaces
    rw [hplaces, Bool.true_or, readPlaces, if_pos rfl]

/-- A minus sign is printed before the number without sign. -/
theorem toChars_of_negative {x : Decimal} (h : x.negative = true) :
    x.toChars = '-' :: toChars { x with negative := false } := by
  rw [toChars_eq, h]
  rfl

/-- A number without sign starts with a digit. -/
theorem exists_toChars_eq {x : Decimal} (h : x.negative = false) :
    ∃ c cs, x.toChars = c :: cs ∧ c.isDigit = true := by
  obtain ⟨c, cs, hdigits⟩ := List.exists_cons_of_ne_nil
    (Nat.toDigits_ne_nil : Nat.toDigits 10 (x.mantissa / 10 ^ x.scale) ≠ [])
  have hmem : c ∈ Nat.toDigits 10 (x.mantissa / 10 ^ x.scale) :=
    hdigits ▸ List.mem_cons_self ..
  rw [toChars_eq, h, hdigits]
  exact ⟨c, _, rfl, Nat.isDigit_of_mem_toDigits (by decide) (by decide) hmem⟩

theorem not_isSpace_of_mem_toChars {x : Decimal} {c : Char} (h : c ∈ x.toChars) :
    Text.isSpace c = false := by
  rw [toChars_eq, List.mem_append, List.mem_append] at h
  rcases h with (h | h) | h
  · split at h
    next => rw [List.mem_singleton.mp h]; decide
    next => cases h
  · exact Text.not_isSpace_of_isDigit (Nat.isDigit_of_mem_toDigits (by decide) (by decide) h)
  · split at h
    next => cases h
    next =>
      rcases List.mem_cons.mp h with rfl | h
      · decide
      · exact Text.not_isSpace_of_isDigit (Text.isDigit_of_mem_padded h)

/-- A number that starts with no sign is read from its first character on. -/
theorem readPlain_of_unsigned {c : Char} (hminus : c ≠ '-') (hplus : c ≠ '+') (cs : List Char) :
    readPlain (c :: cs) = readDigits zero false (c :: cs) := by
  unfold readPlain
  split
  next heq => cases heq
  next heq => cases heq; exact absurd rfl hminus
  next heq => cases heq; exact absurd rfl hplus
  next => rfl

/-- No sign is a digit. -/
theorem readPlain_of_isDigit {c : Char} (h : c.isDigit = true) (cs : List Char) :
    readPlain (c :: cs) = readDigits zero false (c :: cs) := by
  refine readPlain_of_unsigned ?_ ?_ cs
  · rintro rfl
    exact absurd h (by decide)
  · rintro rfl
    exact absurd h (by decide)

/-- The decimal that a number's text is read as: a zero loses its sign. -/
def settled (x : Decimal) : Decimal :=
  { x with negative := x.negative && x.mantissa != 0 }

theorem settled_eq_self {x : Decimal} (h : x.negative = true → x.mantissa ≠ 0) : x.settled = x := by
  refine eq_of_parts ?_ rfl rfl
  show (x.negative && x.mantissa != 0) = x.negative
  cases hnegative : x.negative with
  | true => rw [Bool.true_and, bne_iff_ne.mpr (h hnegative)]
  | false => rfl

/-- Reading and normalizing treat the sign alike. -/
@[simp] theorem normalize_settled (x : Decimal) : x.settled.normalize = x.normalize := by
  have hsign : ((x.negative && x.mantissa != 0) && x.mantissa != 0) =
      (x.negative && x.mantissa != 0) := by
    rw [Bool.and_assoc, Bool.and_self]
  exact eq_of_parts hsign rfl rfl

/-- A printed number is read back. Reading makes no negative zero. -/
theorem readPlain_toChars (x : Decimal) : readPlain x.toChars = .ok x.settled := by
  cases hnegative : x.negative with
  | true =>
    have hsize : readDigits zero false (toChars { x with negative := false }) =
        .ok { x with negative := false } := readDigits_toChars rfl
    rw [toChars_of_negative hnegative, readPlain, hsize]
    -- the minus sign is taken back from a zero only
    refine congrArg Except.ok (eq_of_parts ?_ rfl rfl)
    show (x.mantissa != 0) = (x.negative && x.mantissa != 0)
    rw [hnegative, Bool.true_and]
  | false =>
    obtain ⟨c, cs, hchars, hc⟩ := exists_toChars_eq hnegative
    have hread := readDigits_toChars hnegative
    have hsettled : x.settled = x := settled_eq_self fun hnegative' => by
      rw [hnegative] at hnegative'
      cases hnegative'
    rw [hchars] at hread ⊢
    rw [readPlain_of_isDigit hc, hread, hsettled]

/-- A number's text is read back, with all its places. -/
theorem ofText_toText (x : Decimal) : ofText x.toText = .ok x.settled := by
  unfold ofText toText readChars
  rw [String.toList_ofList, readPlain_toChars]

/-- There is nothing to trim from a printed number, and no plus sign before it. -/
theorem ofTyped_toText_eq_settled (x : Decimal) : ofTyped x.toText = .ok x.settled := by
  have htrim : Text.trimChars x.toChars = x.toChars :=
    Text.trimChars_eq_self fun c hc => not_isSpace_of_mem_toChars hc
  have hread : readChars x.toChars = .ok x.settled := by
    unfold readChars
    rw [readPlain_toChars]
  unfold ofTyped toText
  rw [String.toList_ofList, htrim]
  split
  next cs hplus =>
    exfalso
    cases hnegative : x.negative with
    | true =>
      rw [toChars_of_negative hnegative] at hplus
      cases hplus
    | false =>
      obtain ⟨c, cs', hchars, hc⟩ := exists_toChars_eq hnegative
      rw [hchars] at hplus
      cases hplus
      exact absurd hc (by decide)
  next => exact hread

/-- **A printed number is read back as it was.** -/
theorem ofTyped_toText {x : Decimal} (h : x.negative = true → x.mantissa ≠ 0) :
    ofTyped x.toText = .ok x := by
  rw [ofTyped_toText_eq_settled, settled_eq_self h]

end BudgetNotes.Decimal
