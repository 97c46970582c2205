import BudgetNotes.Proofs.Decimal.Rounding
import Mathlib.Data.List.TakeWhile

/-!
# Numerals

A number is typed as a numeral: a sign or none, digits, and more digits after a
point or no point. A numeral denotes a rational number, however many digits it
has. It is read as that number rounded at the last place of the result, and so
it is read exactly if the number is a decimal at all, and only then.

Main statements: `Numeral.mantissa_eq_round`, `Numeral.value_eq_iff_canHold`
and `Numeral.exists_ofTyped`.
-/

namespace BudgetNotes

/-- The sign before a numeral. -/
inductive LeadingSign where
  | absent
  | plus
  | minus
deriving DecidableEq

def LeadingSign.chars : LeadingSign → List Char
  | absent => []
  | plus => ['+']
  | minus => ['-']

/-- A number in plain notation, with at least one digit before or after the point. -/
structure Numeral where
  sign : LeadingSign
  whole : List Char
  places : Option (List Char)
  isDigit_of_mem : ∀ c ∈ whole ++ places.getD [], c.isDigit = true
  digits_ne_nil : whole ++ places.getD [] ≠ []

namespace Numeral

open Decimal

variable (n : Numeral)

def isNegative : Bool := n.sign = .minus

/-- The count of digits after the point. -/
def scale : Nat := (n.places.getD []).length

/-- The number that all digits make, without the point. -/
def size : Nat := Nat.ofDigitChars 10 (n.whole ++ n.places.getD []) 0

/-- The rational number that a numeral denotes. -/
def value : ℚ := signedRatio n.isNegative n.size n.scale

/-- What follows the sign. -/
def body : List Char := n.whole ++ (n.places.map fun digits => '.' :: digits).getD []

def toText : String := String.ofList (n.sign.chars ++ n.body)

/-! ## Reading the text -/

theorem isDigit_or_point_of_mem_body {c : Char} (h : c ∈ n.body) : c.isDigit = true ∨ c = '.' := by
  have hdigits := n.isDigit_of_mem
  unfold body at h
  rcases List.mem_append.mp h with h | h
  · exact Or.inl (hdigits c (List.mem_append_left _ h))
  · cases hplaces : n.places with
    | none =>
      rw [hplaces] at h
      cases h
    | some digits =>
      rw [hplaces] at h hdigits
      rcases List.mem_cons.mp h with rfl | h
      · exact Or.inr rfl
      · exact Or.inl (hdigits c (List.mem_append_right _ h))

theorem body_ne_nil : n.body ≠ [] := by
  have hdigits := n.digits_ne_nil
  unfold body
  cases hplaces : n.places with
  | none =>
    rw [hplaces] at hdigits
    exact hdigits
  | some digits => simp

/-- The body has no sign, so it is read from its first character on. -/
theorem readPlain_body : readPlain n.body = readDigits zero false n.body := by
  obtain ⟨c, cs, hbody⟩ := List.exists_cons_of_ne_nil n.body_ne_nil
  have hc := n.isDigit_or_point_of_mem_body (hbody ▸ List.mem_cons_self ..)
  rw [hbody]
  refine readPlain_of_unsigned ?_ ?_ cs
  · rintro rfl
    exact absurd hc (by decide)
  · rintro rfl
    exact absurd hc (by decide)

/-- Without an exponent only the plain notation is tried. -/
theorem readChars_eq_readPlain {cs : List Char} (h : ∀ c ∈ cs, c ≠ 'e' ∧ c ≠ 'E') :
    readChars cs = readPlain cs := by
  have hnone : splitExponent? cs = none := by
    have hdrop : (cs.dropWhile fun c => c != 'e' && c != 'E') = [] := by
      rw [List.dropWhile_eq_nil_iff]
      intro c hc
      rw [Bool.and_eq_true, bne_iff_ne, bne_iff_ne]
      exact h c hc
    unfold splitExponent?
    rw [hdrop]
  unfold readChars
  rw [hnone]
  cases readPlain cs with
  | ok x => rfl
  | error e => rfl

theorem no_exponent_in_signed_body :
    ∀ c ∈ n.sign.chars ++ n.body, c ≠ 'e' ∧ c ≠ 'E' := by
  intro c hc
  have hchar : c ∈ ['+', '-'] ∨ c.isDigit = true ∨ c = '.' := by
    rcases List.mem_append.mp hc with hc | hc
    · left
      cases hsign : n.sign <;> rw [hsign] at hc <;> simp_all [LeadingSign.chars]
    · exact Or.inr (n.isDigit_or_point_of_mem_body hc)
  constructor
  · rintro rfl
    exact absurd hchar (by decide)
  · rintro rfl
    exact absurd hchar (by decide)

variable {n}

/-- A numeral is read as its body is; a minus sign is added afterwards. -/
theorem ofTyped_eq {s : String} (h : Text.trim s = n.toText) :
    ofTyped s = if n.isNegative then (readDigits zero false n.body).map withMinus
      else readDigits zero false n.body := by
  have hchars : Text.trimChars s.toList = n.sign.chars ++ n.body := String.ofList_inj.mp h
  have hread := readChars_eq_readPlain n.no_exponent_in_signed_body
  have hbody : readChars n.body = readDigits zero false n.body := by
    rw [← n.readPlain_body]
    exact readChars_eq_readPlain fun c hc =>
      n.no_exponent_in_signed_body c (List.mem_append_right _ hc)
  unfold ofTyped isNegative
  rw [hchars]
  cases hsign : n.sign with
  | absent =>
    rw [LeadingSign.chars, List.nil_append, if_neg (by decide)]
    split
    next cs hplus =>
      have hc := n.isDigit_or_point_of_mem_body (hplus ▸ List.mem_cons_self ..)
      exact absurd hc (by decide)
    next => exact hbody
  | plus => exact hbody
  | minus =>
    rw [hsign] at hread
    exact hread

/-- What is read of the body is the size rounded at the last place of the result. -/
theorem rounds_of_readDigits {x : Decimal} (h : readDigits zero false n.body = .ok x) :
    Rounds n.size n.scale x ∧ x.negative = false := by
  have hdigits := n.isDigit_of_mem
  obtain ⟨z, hnegative, hmantissa, hscale, hrest⟩ :=
    exists_of_readDigits_append (fun c hc => hdigits c (List.mem_append_left _ hc)) h
  unfold size scale
  cases hplaces : n.places with
  | none =>
    rw [hplaces, Option.map_none, Option.getD_none, readDigits] at hrest
    rw [Option.getD_none, List.append_nil]
    split at hrest
    next =>
      cases hrest
      exact ⟨rounds_self hmantissa hscale, hnegative⟩
    next => cases hrest
  | some digits =>
    rw [hplaces] at hdigits
    rw [hplaces, Option.map_some, Option.getD_some, readDigits, if_neg (by decide),
      if_pos rfl] at hrest
    obtain ⟨hrounds, hsign⟩ :=
      rounds_of_readPlaces (fun c hc => hdigits c (List.mem_append_right _ hc)) hrest
    have hzero : zero.scale = 0 := rfl
    rw [hmantissa, hscale, hzero, Nat.zero_add] at hrounds
    rw [Option.getD_some, Nat.ofDigitChars_append]
    exact ⟨hrounds, hsign.trans hnegative⟩

/-- A numeral of a decimal's size is read. -/
theorem exists_readDigits {y : Decimal} (hy : HasSize n.size n.scale y) :
    ∃ x, readDigits zero false n.body = .ok x := by
  have hdigits := n.isDigit_of_mem
  have hne := n.digits_ne_nil
  have hsize : n.size = Nat.ofDigitChars 10 (n.places.getD []) (Nat.ofDigitChars 10 n.whole 0) :=
    Nat.ofDigitChars_append ..
  -- the digits before the point are no more than the mantissa of `y`
  have hwhole : Nat.ofDigitChars 10 n.whole 0 ≤ maxMantissa := by
    have hle : Nat.ofDigitChars 10 n.whole 0 * 10 ^ n.scale ≤ y.mantissa * 10 ^ n.scale :=
      calc Nat.ofDigitChars 10 n.whole 0 * 10 ^ n.scale
        _ ≤ n.size := by
          rw [hsize]
          generalize Nat.ofDigitChars 10 n.whole 0 = whole
          rw [Nat.ofDigitChars_eq_ofDigitChars_zero, Nat.mul_comm]
          exact Nat.le_add_right ..
        _ ≤ n.size * 10 ^ y.scale := Nat.le_mul_of_pos_right _ (Nat.pow_pos (by decide))
        _ = y.mantissa * 10 ^ n.scale := hy.symm
    exact Nat.le_trans (Nat.le_of_mul_le_mul_right hle (Nat.pow_pos (by decide))) y.mantissa_le
  have hread := readDigits_append (x := zero) (y := ⟨false, _, 0, hwhole, Nat.zero_le _⟩)
    (fun c hc => hdigits c (List.mem_append_left _ hc)) false
    ((n.places.map fun digits => '.' :: digits).getD []) rfl rfl rfl
  unfold body
  rw [hread, Bool.false_or]
  unfold scale at hy
  rw [hsize] at hy
  cases hplaces : n.places with
  | none =>
    rw [hplaces, Option.getD_none, List.append_nil] at hne
    rw [Option.map_none, Option.getD_none, readDigits, List.isEmpty_eq_false_iff.mpr hne]
    exact ⟨_, rfl⟩
  | some digits =>
    rw [hplaces, Option.getD_some] at hy hdigits hne
    rw [Option.map_some, Option.getD_some, readDigits, if_neg (by decide), if_pos rfl]
    refine exists_readPlaces (y := y) (fun c hc => hdigits c (List.mem_append_right _ hc)) ?_ ?_
    · by_cases hempty : n.whole = []
      · right
        rw [hempty, List.nil_append] at hne
        exact hne
      · left
        rw [List.isEmpty_eq_false_iff.mpr hempty, Bool.not_false]
    · rw [Nat.zero_add]
      exact hy

theorem rounds_of_ofTyped {s : String} (hs : Text.trim s = n.toText) {x : Decimal}
    (h : ofTyped s = .ok x) :
    Rounds n.size n.scale x ∧ (x.mantissa ≠ 0 → x.negative = n.isNegative) := by
  rw [ofTyped_eq hs] at h
  cases hnegative : n.isNegative with
  | false =>
    rw [hnegative, if_neg Bool.false_ne_true] at h
    obtain ⟨hrounds, hsign⟩ := rounds_of_readDigits h
    exact ⟨hrounds, fun _ => hsign⟩
  | true =>
    rw [hnegative, if_pos rfl] at h
    cases hread : readDigits zero false n.body with
    | error e =>
      rw [hread] at h
      cases h
    | ok y =>
      rw [hread] at h
      cases h
      -- the minus sign changes neither mantissa nor scale
      obtain ⟨⟨hscale, hmantissa, hexact⟩, -⟩ := rounds_of_readDigits hread
      exact ⟨⟨hscale, hmantissa, hexact⟩, fun hne => bne_iff_ne.mpr hne⟩

/-! ## The number that is read -/

/-- A decimal has a numeral's number if they have the same size and sign. -/
theorem value_eq_iff_hasSize {x : Decimal} (hsign : x.mantissa ≠ 0 → x.negative = n.isNegative) :
    x.value = n.value ↔ HasSize n.size n.scale x := by
  unfold Decimal.value value HasSize
  rw [signedRatio_eq_iff, and_iff_left hsign]

/-- **A numeral is read exactly if its number is a decimal, and only then.** -/
theorem value_eq_iff_canHold {s : String} (hs : Text.trim s = n.toText) {x : Decimal}
    (h : ofTyped s = .ok x) : x.value = n.value ↔ CanHold n.value := by
  obtain ⟨hrounds, hsign⟩ := rounds_of_ofTyped hs h
  refine ⟨fun hvalue => ⟨x, hvalue⟩, ?_⟩
  rintro ⟨y, hy⟩
  exact (value_eq_iff_hasSize hsign).mpr
    (hrounds.exact_of_hasSize y (signedRatio_eq_iff.mp hy).1)

/-- **What is read is the number rounded at the last place of the result**, a half away from
zero. -/
theorem mantissa_eq_round {s : String} (hs : Text.trim s = n.toText) {x : Decimal}
    (h : ofTyped s = .ok x) :
    (x.mantissa : ℤ) = round (|n.value| * (10 ^ x.scale : Nat)) := by
  obtain ⟨⟨hscale, hmantissa, -⟩, -⟩ := rounds_of_ofTyped hs h
  have hratio : (n.size : ℚ) / (10 ^ (n.scale - x.scale) : Nat) =
      |n.value| * (10 ^ x.scale : Nat) := by
    have hsplit : n.scale = n.scale - x.scale + x.scale := (Nat.sub_add_cancel hscale).symm
    unfold value
    rw [abs_signedRatio, hsplit, Nat.pow_add, ← hsplit, Nat.cast_mul, div_mul_eq_mul_div,
      mul_div_mul_right _ _ (cast_pow_ne_zero _)]
  rw [hmantissa, roundOff_eq_round, hratio]

/-- A numeral whose number is a decimal is read as that number. -/
theorem exists_ofTyped {s : String} (hs : Text.trim s = n.toText) (h : CanHold n.value) :
    ∃ x, ofTyped s = .ok x ∧ x.value = n.value := by
  obtain ⟨y, hy⟩ := h
  obtain ⟨x, hread⟩ := exists_readDigits (n := n) (signedRatio_eq_iff.mp hy).1
  have htyped : ∃ x', ofTyped s = .ok x' := by
    rw [ofTyped_eq hs, hread]
    cases n.isNegative with
    | true => exact ⟨_, rfl⟩
    | false => exact ⟨_, rfl⟩
  obtain ⟨x', hx'⟩ := htyped
  exact ⟨x', hx', (value_eq_iff_canHold hs hx').mpr ⟨y, hy⟩⟩

end Numeral

end BudgetNotes
