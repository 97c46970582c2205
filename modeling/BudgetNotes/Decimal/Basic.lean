import BudgetNotes.Text.Numeral

/-!
# Decimal numbers

A decimal is a sign, a mantissa below 2^96 and a scale from 0 to 28, and
stands for ±mantissa / 10^scale. One number has several decimals (`1.5`,
`1.50`), and each keeps the scale it was written with. Numbers are compared
by `units`, their count of 10^-28.

A decimal is printed without exponent and with exactly `scale` digits after
the point: `12.340`, `0.00`, `-3`. The sign is printed as it stands, also
before a zero.
-/

namespace BudgetNotes

/-- A number with at most 28 decimal places and a 96-bit mantissa. -/
structure Decimal where
  negative : Bool
  mantissa : Nat
  scale : Nat
  mantissa_le : mantissa ≤ 79228162514264337593543950335
  scale_le : scale ≤ 28
deriving DecidableEq

namespace Decimal

/-- The largest mantissa, 2^96 - 1. -/
def maxMantissa : Nat := 79228162514264337593543950335

def maxScale : Nat := 28

/-- A number of units of 10^-28, the common measure of all decimals. -/
def units (x : Decimal) : Int :=
  let size : Int := (x.mantissa * Nat.pow 10 (maxScale - x.scale) : Nat)
  if x.negative then -size else size

/-- Whether two decimals are the same number. -/
def Equiv (x y : Decimal) : Prop := x.units = y.units

instance (x y : Decimal) : Decidable (Equiv x y) :=
  inferInstanceAs (Decidable (x.units = y.units))

def zero : Decimal := ⟨false, 0, 0, by decide, by decide⟩

/-- One without decimal places. -/
def one : Decimal := ⟨false, 1, 0, by decide, by decide⟩

/-- A whole number, if its mantissa fits. -/
def ofInt? (n : Int) : Option Decimal :=
  if h : n.natAbs ≤ maxMantissa then
    some ⟨decide (n < 0), n.natAbs, 0, h, Nat.zero_le _⟩
  else none

/-- The integer a decimal stands for, if it has no fractional part. -/
def toInt? (x : Decimal) : Option Int :=
  if x.mantissa % Nat.pow 10 x.scale = 0 then
    let size : Int := (x.mantissa / Nat.pow 10 x.scale : Nat)
    some (if x.negative then -size else size)
  else none

/-- Drops decimal places that hold a zero, at most `scale` of them. -/
def stripZeros : Nat → Nat → Nat × Nat
  | mantissa, 0 => (mantissa, 0)
  | mantissa, scale + 1 =>
    if mantissa % 10 = 0 then stripZeros (mantissa / 10) scale else (mantissa, scale + 1)

/-- Stripping zeros makes neither part larger. -/
theorem stripZeros_le (m s : Nat) : (stripZeros m s).1 ≤ m ∧ (stripZeros m s).2 ≤ s := by
  induction s generalizing m with
  | zero => exact ⟨Nat.le_refl _, Nat.le_refl _⟩
  | succ s ih =>
    rw [stripZeros]
    split
    · have := ih (m / 10)
      omega
    · exact ⟨Nat.le_refl _, Nat.le_refl _⟩

/-- The form without trailing zeros after the point; zero loses its sign. -/
def normalize (x : Decimal) : Decimal where
  negative := x.negative && x.mantissa != 0
  mantissa := (stripZeros x.mantissa x.scale).1
  scale := (stripZeros x.mantissa x.scale).2
  mantissa_le := Nat.le_trans (stripZeros_le ..).1 x.mantissa_le
  scale_le := Nat.le_trans (stripZeros_le ..).2 x.scale_le

/-! ## Texts -/

/-- The characters of a decimal's text. -/
def toChars (x : Decimal) : List Char :=
  (if x.negative then ['-'] else []) ++ Nat.toDigits 10 (x.mantissa / Nat.pow 10 x.scale) ++
    (if x.scale = 0 then [] else '.' :: Text.padded x.scale (x.mantissa % Nat.pow 10 x.scale))

/-- A decimal's text, with all its places. -/
def toText (x : Decimal) : String :=
  String.ofList x.toChars

end Decimal

end BudgetNotes
