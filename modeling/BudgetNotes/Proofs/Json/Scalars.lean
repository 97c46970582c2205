import BudgetNotes.Json.Printer
import BudgetNotes.Json.Reader
import BudgetNotes.Proofs.Text.Numerals
import Mathlib.Tactic.SplitIfs

/-!
# Printed texts and integers are read back

A text is printed in quotes, with an escape for each character that must not
stand there. Every character is read as one code unit, its own; so no halves of
surrogate pairs come up, and the units make up the same text.

An integer is printed in its digits, with no zero in front of others. It is
read to its last digit, as long as nothing follows that a number could go on
with (`EndsNumber`).

Main statements: `readText_quoted` and `readNumber_toDigits`.
-/

namespace BudgetNotes.Json

/-! ## Texts -/

/-- A code unit in front of what is read after it. -/
def consUnit (unit : Nat) (read : List Nat × List Char) : List Nat × List Char :=
  (unit :: read.1, read.2)

/-- A character that is neither quote nor slash, and no control character, stands for itself. -/
theorem readUnits_plain {c : Char} (hquote : c ≠ '"') (hslash : c ≠ '\\') (hcontrol : 32 ≤ c.toNat)
    (cs : List Char) : readUnits (c :: cs) = (readUnits cs).map (consUnit c.toNat) := by
  have hnot : ¬(decide (c.toNat < 32) || decide (c = '\\')) = true := by
    rw [Bool.or_eq_true, decide_eq_true_eq, decide_eq_true_eq]
    rintro (hlt | heq)
    · omega
    · exact hslash heq
  rw [readUnits, if_neg hnot]
  · cases readUnits cs <;> rfl
  · exact hquote
  · exact fun _ _ _ _ _ heq => absurd heq hslash
  · exact fun _ _ heq => absurd heq hslash

/-- A character that is escaped by a slash is read as the one it stands for. -/
theorem readUnits_escape {c : Char} {unit : Nat} (h : escapeUnit? c = some unit) (cs : List Char) :
    readUnits ('\\' :: c :: cs) = (readUnits cs).map (consUnit unit) := by
  rw [readUnits, h]
  · cases readUnits cs <;> rfl
  · rintro _ _ _ _ _ rfl
    cases h

/-- A number below 16 is the value of its hexadecimal digit. -/
theorem hexValue?_digitChar : ∀ n < 16, Text.hexValue? (Nat.digitChar n) = some n := by decide

theorem readUnits_control {c : Char} (h : c.toNat < 32) (cs : List Char) :
    readUnits ('\\' :: 'u' :: '0' :: '0' :: Nat.digitChar (c.toNat / 16) ::
        Nat.digitChar (c.toNat % 16) :: cs) = (readUnits cs).map (consUnit c.toNat) := by
  have hzero : Text.hexValue? '0' = some 0 := rfl
  have hnumber : ((0 * 16 + 0) * 16 + c.toNat / 16) * 16 + c.toNat % 16 = c.toNat := by omega
  rw [readUnits, hzero, hexValue?_digitChar (c.toNat / 16) (by omega),
    hexValue?_digitChar (c.toNat % 16) (by omega)]
  cases readUnits cs with
  | none => rfl
  | some read => exact congrArg (fun unit => some (consUnit unit read)) hnumber

/-- A printed character is read as its own unit. -/
theorem readUnits_escapeChar (c : Char) (cs : List Char) :
    readUnits (escapeChar c ++ cs) = (readUnits cs).map (consUnit c.toNat) := by
  unfold escapeChar
  split_ifs with hquote hslash hfeed hreturn htab hback hform hcontrol
  · rw [hquote]
    exact readUnits_escape rfl cs
  · rw [hslash]
    exact readUnits_escape rfl cs
  · rw [hfeed]
    exact readUnits_escape rfl cs
  · rw [hreturn]
    exact readUnits_escape rfl cs
  · rw [htab]
    exact readUnits_escape rfl cs
  · rw [hback]
    exact readUnits_escape rfl cs
  · rw [hform]
    exact readUnits_escape rfl cs
  · exact readUnits_control hcontrol cs
  · exact readUnits_plain hquote hslash (Nat.le_of_not_lt hcontrol) cs

theorem readUnits_flatMap_escapeChar (cs rest : List Char) :
    readUnits (cs.flatMap escapeChar ++ '"' :: rest) = some (cs.map Char.toNat, rest) := by
  induction cs with
  | nil => rfl
  | cons c cs ih =>
    rw [List.flatMap_cons, List.append_assoc, readUnits_escapeChar, ih]
    rfl

/-- No character is half a surrogate pair. -/
theorem joinUnits?_map_toNat (cs : List Char) : joinUnits? (cs.map Char.toNat) = some cs := by
  induction cs with
  | nil => rfl
  | cons c cs ih =>
    have hvalid : c.toNat < 0xD800 ∨ 0xDFFF < c.toNat := c.valid.imp id And.left
    have hhigh : ¬(decide (0xD800 ≤ c.toNat) && decide (c.toNat < 0xDC00)) = true := by
      rw [Bool.and_eq_true, decide_eq_true_eq, decide_eq_true_eq]
      omega
    have hlow : ¬(decide (0xDC00 ≤ c.toNat) && decide (c.toNat < 0xE000)) = true := by
      rw [Bool.and_eq_true, decide_eq_true_eq, decide_eq_true_eq]
      omega
    rw [List.map_cons, joinUnits?.eq_def]
    simp only [if_neg hhigh, if_neg hlow, ih, Option.map_some, Char.ofNat_toNat]

/-- **A text is read back** from within its quotes. -/
theorem readText_quoted (s : String) (rest : List Char) :
    readText (s.toList.flatMap escapeChar ++ '"' :: rest) = some (some s, rest) := by
  have htext : (joinUnits? (s.toList.map Char.toNat)).map String.ofList = some s := by
    rw [joinUnits?_map_toNat, Option.map_some, String.ofList_toList]
  unfold readText
  rw [readUnits_flatMap_escapeChar, ← htext]
  rfl

/-! ## Integers -/

/-- What a number does not go on with. -/
def EndsNumber (rest : List Char) : Prop :=
  ∀ c ∈ rest.head?, c.isDigit = false ∧ c ≠ '.' ∧ c ≠ 'e' ∧ c ≠ 'E'

/-- The digits of a number end where something else follows. -/
theorem takeDigits?_append {digits rest : List Char} (hne : digits ≠ [])
    (hdigits : ∀ c ∈ digits, c.isDigit = true) (hrest : EndsNumber rest) :
    takeDigits? (digits ++ rest) = some (digits, rest) := by
  have hstop : rest.takeWhile Char.isDigit = [] ∧ rest.dropWhile Char.isDigit = rest := by
    cases rest with
    | nil => exact ⟨rfl, rfl⟩
    | cons c rest =>
      have hc : ¬c.isDigit = true := by
        rw [(hrest c rfl).1]
        exact Bool.false_ne_true
      exact ⟨List.takeWhile_cons_of_neg hc, List.dropWhile_cons_of_neg hc⟩
  unfold takeDigits?
  rw [List.takeWhile_append_of_pos hdigits, List.dropWhile_append_of_pos hdigits, hstop.1, hstop.2,
    List.append_nil]
  cases digits with
  | nil => exact absurd rfl hne
  | cons c digits => rfl

theorem takePlaces?_of_endsNumber {rest : List Char} (h : EndsNumber rest) :
    takePlaces? rest = some ([], rest) := by
  unfold takePlaces?
  split
  next => exact absurd rfl (h '.' rfl).2.1
  next => rfl

theorem takeExponent?_of_endsNumber {rest : List Char} (h : EndsNumber rest) :
    takeExponent? rest = some (none, rest) := by
  unfold takeExponent?
  cases rest with
  | nil => rfl
  | cons c rest =>
    obtain ⟨_, _, he, hE⟩ := h c rfl
    simp [he, hE]

/-- A number has no zero in front of its digits. -/
theorem head?_toDigits_ne (n : Nat) (h : 0 < n) : (Nat.toDigits 10 n).head? ≠ some '0' := by
  induction n using Nat.strongRecOn with
  | ind n ih =>
    rcases Nat.lt_or_ge n 10 with hlt | hge
    · have hdigit : ∀ d < 10, 0 < d → Nat.digitChar d ≠ '0' := by decide
      rw [Nat.toDigits_of_lt_base hlt, List.head?_cons]
      exact fun heq => hdigit n hlt h (Option.some.inj heq)
    · have hfront := ih (n / 10) (by omega) (by omega)
      rw [Nat.toDigits_of_base_le (by decide) hge]
      cases hdigits : Nat.toDigits 10 (n / 10) with
      | nil => exact absurd hdigits Nat.toDigits_ne_nil
      | cons c digits =>
        rw [hdigits, List.head?_cons] at hfront
        rwa [List.cons_append, List.head?_cons]

/-- **The digits of a number are read back.** -/
theorem readNumber_toDigits (negative : Bool) (n : Nat) {rest : List Char} (h : EndsNumber rest) :
    readNumber negative (Nat.toDigits 10 n ++ rest) =
      some (integerOf negative (Nat.toDigits 10 n), rest) := by
  have hzero : ¬(decide ((Nat.toDigits 10 n).head? = some '0') &&
      decide (1 < (Nat.toDigits 10 n).length)) = true := by
    rw [Bool.and_eq_true, decide_eq_true_eq, decide_eq_true_eq]
    rintro ⟨hhead, hlong⟩
    rcases Nat.eq_zero_or_pos n with rfl | hpos
    · exact absurd hlong (by decide)
    · exact head?_toDigits_ne n hpos hhead
  unfold readNumber
  rw [takeDigits?_append Nat.toDigits_ne_nil
    (fun _ hc => Nat.isDigit_of_mem_toDigits (by decide) (by decide) hc) h]
  simp only [Option.bind_eq_bind, Option.bind_some, if_neg hzero, takePlaces?_of_endsNumber h,
    takeExponent?_of_endsNumber h]
  rfl

/-- The digits of an integer that fits 64 bits, without its sign. -/
theorem integerOf_toDigits {n : Int} (hlow : -9223372036854775808 ≤ n)
    (hhigh : n ≤ 18446744073709551615) :
    integerOf (decide (n < 0)) (Nat.toDigits 10 n.natAbs) = int n := by
  unfold integerOf
  simp only [Nat.ofDigitChars_ten_toDigits]
  by_cases hneg : n < 0
  · have hfits : (decide (0 < n.natAbs) && decide (n.natAbs ≤ 9223372036854775808)) = true := by
      rw [Bool.and_eq_true, decide_eq_true_eq, decide_eq_true_eq]
      omega
    have hvalue : -(n.natAbs : Int) = n := by omega
    rw [decide_eq_true hneg, if_pos rfl, if_pos hfits, hvalue]
  · have hfits : n.natAbs ≤ maxSignificand := by
      unfold maxSignificand
      omega
    have hvalue : (n.natAbs : Int) = n := by omega
    rw [decide_eq_false hneg, if_neg Bool.false_ne_true, if_pos hfits, hvalue]

end BudgetNotes.Json
