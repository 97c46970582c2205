import BudgetNotes.Decimal.Basic
import BudgetNotes.Text.Lines
import BudgetNotes.Text.Numeral

/-!
# Reading decimals

A number is read in plain notation: a sign, digits, and at most one point,
with `_` allowed between digits. A text that fails so is tried in scientific
notation if it has an `e`.

The digits are taken one by one. Before the point a digit that does not fit
the mantissa is an error; after it, the first digit that does not fit rounds
the number and ends it, and what follows may only be more digits.
-/

namespace BudgetNotes

/-- Why a text is no decimal. -/
inductive DecimalError where
  | empty
  | noDigits
  | unknownCharacter
  | twoPoints
  | separatorFirst
  | tooManyDigits
  | roundingOverflow
  | badExponent
  | exponentTooLarge (exponent : Nat)
  | tooLarge
deriving DecidableEq

def DecimalError.message : DecimalError → String
  | .empty => "Invalid decimal: empty"
  | .noDigits => "Invalid decimal: no digits found"
  | .unknownCharacter => "Invalid decimal: unknown character"
  | .twoPoints => "Invalid decimal: two decimal points"
  | .separatorFirst => "Invalid decimal: must start lead with a number"
  | .tooManyDigits => "Invalid decimal: overflow from too many digits"
  | .roundingOverflow => "Invalid decimal: overflow from mantissa after rounding"
  | .badExponent => "Failed to parse"
  | .exponentTooLarge n =>
    "Scale exceeds the maximum precision allowed: " ++ Text.numeral n ++ " > 28"
  | .tooLarge => "Number exceeds maximum value that can be represented."

namespace Decimal

/-! ## Taking one digit

These are opened by their lemmas only: the bound on the mantissa is too large to evaluate. -/

/-- Appends a digit before the point, if the mantissa can hold it. -/
@[irreducible]
def appendDigit? (x : Decimal) (d : Nat) : Option Decimal :=
  if h : x.mantissa * 10 + d ≤ maxMantissa then
    some { x with mantissa := x.mantissa * 10 + d, mantissa_le := h }
  else none

/-- Appends a decimal place, if mantissa and scale can hold it. -/
@[irreducible]
def appendPlace? (x : Decimal) (d : Nat) : Option Decimal :=
  if h : x.mantissa * 10 + d ≤ maxMantissa ∧ x.scale + 1 ≤ maxScale then
    some ⟨x.negative, x.mantissa * 10 + d, x.scale + 1, h.1, h.2⟩
  else none

/-- Rounds by the first place that is left out; a mantissa that overflows gives up a place. -/
@[irreducible]
def roundAt? (x : Decimal) (d : Nat) : Option Decimal :=
  if d < 5 then some x
  else if h : x.mantissa + 1 ≤ maxMantissa then
    some { x with mantissa := x.mantissa + 1, mantissa_le := h }
  else if x.scale = 0 then none
  else
    have small : (x.mantissa + 5) / 10 ≤ 79228162514264337593543950335 := by
      have := x.mantissa_le
      omega
    some ⟨x.negative, (x.mantissa + 5) / 10, x.scale - 1, small,
      Nat.le_trans (Nat.sub_le ..) x.scale_le⟩

/-! ## Plain notation -/

/-- What follows the rounding digit: more digits, all without effect. -/
def checkTail : List Char → Except DecimalError Unit
  | [] => .ok ()
  | c :: cs =>
    if c.isDigit || c = '_' then checkTail cs
    else if c = '.' then .error .twoPoints
    else .error .unknownCharacter

/-- Reads the places after the point; `seen` tells whether a digit came before. -/
def readPlaces (x : Decimal) (seen : Bool) : List Char → Except DecimalError Decimal
  | [] => if seen then .ok x else .error .noDigits
  | c :: cs =>
    if c.isDigit then
      match x.appendPlace? (Text.digitValue c) with
      | some y => readPlaces y true cs
      | none =>
        match x.roundAt? (Text.digitValue c) with
        | some y => (checkTail cs).map fun _ => y
        | none => .error .roundingOverflow
    else if c = '.' then .error .twoPoints
    else if c = '_' then if seen then readPlaces x seen cs else .error .separatorFirst
    else .error .unknownCharacter

/-- Reads the digits before the point and all that follows. -/
def readDigits (x : Decimal) (seen : Bool) : List Char → Except DecimalError Decimal
  | [] => if seen then .ok x else .error .noDigits
  | c :: cs =>
    if c.isDigit then
      match x.appendDigit? (Text.digitValue c) with
      | some y => readDigits y true cs
      | none => .error .tooManyDigits
    else if c = '.' then readPlaces x seen cs
    else if c = '_' then if seen then readDigits x seen cs else .error .separatorFirst
    else .error .unknownCharacter

/-- The same size with a minus sign; zero has none. -/
def withMinus (x : Decimal) : Decimal :=
  { x with negative := x.mantissa != 0 }

/-- Reads a number in plain notation. -/
def readPlain : List Char → Except DecimalError Decimal
  | [] => .error .empty
  | '-' :: cs => (readDigits zero false cs).map withMinus
  | '+' :: cs => readDigits zero false cs
  | cs => readDigits zero false cs

/-! ## Scientific notation -/

/-- Cuts a text at its first `e` or `E`. -/
def splitExponent? (cs : List Char) : Option (List Char × List Char) :=
  match cs.dropWhile fun c => c != 'e' && c != 'E' with
  | [] => none
  | _ :: exponent => some (cs.takeWhile fun c => c != 'e' && c != 'E', exponent)

/-- Reads the size of an exponent, below 2^32; a plus sign may lead it. -/
def readExponentSize? (cs : List Char) : Option Nat :=
  let digits := match cs with
    | '+' :: rest => rest
    | _ => cs
  (Text.readNat? digits).filter (· < 4294967296)

/-- A half rounds away from zero when the last `places` digits are cut off. -/
def roundOff (mantissa places : Nat) : Nat :=
  (mantissa + Nat.pow 10 places / 2) / Nat.pow 10 places

/-- Rounding off some digits makes a mantissa no larger. -/
theorem roundOff_le (m : Nat) {places : Nat} (h : 0 < places) : roundOff m places ≤ m := by
  have hp : 2 ≤ Nat.pow 10 places := Nat.one_lt_pow (Nat.ne_of_gt h) (by decide)
  apply Nat.le_of_lt_succ
  rw [roundOff, Nat.div_lt_iff_lt_mul (by omega), Nat.succ_mul]
  have : m ≤ m * Nat.pow 10 places := Nat.le_mul_of_pos_right m (by omega)
  omega

/-- Divides by 10^n. Places beyond the last are rounded off, a half away from zero. -/
def scaleDown (x : Decimal) (n : Nat) : Except DecimalError Decimal :=
  if n > maxScale then .error (.exponentTooLarge n)
  else if h : x.scale + n ≤ maxScale then
    .ok { x with scale := x.scale + n, scale_le := h }
  else
    have small := Nat.le_trans (roundOff_le x.mantissa (Nat.sub_pos_of_lt (Nat.lt_of_not_le h)))
      x.mantissa_le
    .ok ⟨x.negative, roundOff x.mantissa (x.scale + n - maxScale), maxScale, small,
      Nat.le_refl _⟩

/-- Multiplies by 10^n, with as many of the places kept as are left. -/
def scaleUp (x : Decimal) (n : Nat) : Except DecimalError Decimal :=
  if n ≤ x.scale then
    .ok { x with scale := x.scale - n, scale_le := Nat.le_trans (Nat.sub_le ..) x.scale_le }
  else if n > maxScale then .error (.exponentTooLarge n)
  else if h : x.mantissa * Nat.pow 10 (n - x.scale) ≤ maxMantissa then
    .ok { zero with
      negative := x.negative && x.mantissa != 0
      mantissa := x.mantissa * Nat.pow 10 (n - x.scale)
      mantissa_le := h }
  else .error .tooLarge

/-- Applies the exponent `cs` to a number. -/
def applyExponent (x : Decimal) (cs : List Char) : Except DecimalError Decimal :=
  match cs with
  | '-' :: rest =>
    match readExponentSize? rest with
    | some n => x.scaleDown n
    | none => .error .badExponent
  | _ =>
    match readExponentSize? cs with
    | some n => x.scaleUp n
    | none => .error .badExponent

/-! ## Whole texts -/

/-- Reads a number in either notation. -/
def readChars (cs : List Char) : Except DecimalError Decimal :=
  match readPlain cs with
  | .ok x => .ok x
  | .error e =>
    match splitExponent? cs with
    | none => .error e
    | some (base, exponent) =>
      match readPlain base with
      | .ok x => x.applyExponent exponent
      | .error e => .error e

/-- Reads a number as it is stored: the text is all of it. -/
def ofText (s : String) : Except DecimalError Decimal :=
  readChars s.toList

/-- Reads a number as it is typed: white space around it and one leading plus sign are dropped. -/
def ofTyped (s : String) : Except DecimalError Decimal :=
  match Text.trimChars s.toList with
  | '+' :: cs => readChars cs
  | cs => readChars cs

end Decimal

end BudgetNotes
