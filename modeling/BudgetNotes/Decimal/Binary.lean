import BudgetNotes.Text.Numeral

/-!
# Binary floating point numbers

A number in a JSON document that is no integer is held in binary64: a
mantissa below 2^53 times a power of two from 2^-1074 up. Everything here is
exact arithmetic on natural numbers, rounded to the nearest (to even on a
tie) where the format rounds.

* `round` takes a ratio to the nearest binary64 number.
* `ofScientific` reads a significand and a power of ten the way the reader
  of documents does: the significand is rounded first, then the product or
  quotient with the power, so the last bit may differ from the nearest.
* `shortest` finds the shortest decimal that reads back as the number.
-/

namespace BudgetNotes

/-- The finite magnitude mantissa · 2^exponent. -/
structure Binary64 where
  mantissa : Nat
  exponent : Int
deriving DecidableEq

namespace Binary64

/-- The power 2^k or 10^k as a ratio. -/
def powRatio (base : Nat) (k : Int) : Nat × Nat :=
  if 0 ≤ k then (Nat.pow base k.toNat, 1) else (1, Nat.pow base (-k).toNat)

/-- The largest k with 2^k ≤ num / den. -/
def floorLog2 (num den : Nat) : Int :=
  let k : Int := (num.log2 : Int) - (den.log2 : Int)
  let p := powRatio 2 k
  if den * p.1 ≤ num * p.2 then k else k - 1

/-- The quotient num / den rounded to the nearest natural number, ties to even. -/
def roundDiv (num den : Nat) : Nat :=
  let q := num / den
  let r := num % den
  if den < 2 * r || (den == 2 * r && q % 2 == 1) then q + 1 else q

/-- The binary64 number nearest to num / den, or nothing beyond the largest. -/
def round (num den : Nat) : Option Binary64 :=
  if num = 0 then some ⟨0, -1074⟩
  else
    let e := max (floorLog2 num den - 52) (-1074)
    let p := powRatio 2 e
    let m := roundDiv (num * p.2) (den * p.1)
    let x : Binary64 := if m = 9007199254740992 then ⟨4503599627370496, e + 1⟩ else ⟨m, e⟩
    if 971 < x.exponent then none else some x

/-- A number as a ratio. -/
def toRatio (x : Binary64) : Nat × Nat :=
  let p := powRatio 2 x.exponent
  (x.mantissa * p.1, p.2)

def mul (x y : Binary64) : Option Binary64 :=
  let a := x.toRatio
  let b := y.toRatio
  round (a.1 * b.1) (a.2 * b.2)

def div (x y : Binary64) : Option Binary64 :=
  let a := x.toRatio
  let b := y.toRatio
  round (a.1 * b.2) (a.2 * b.1)

/-! ## From decimal notation -/

/-- Divides by 10^308 a number of times. -/
def divSteps (x : Binary64) : Nat → Option Binary64
  | 0 => some x
  | steps + 1 => do
    let big ← round (Nat.pow 10 308) 1
    let y ← x.div big
    y.divSteps steps

/-- Reads `significand` · 10^k, or nothing beyond the largest number.
Exponents below -308 are taken in steps of 308; after four of them nothing is left. -/
def ofScientific (significand : Nat) (k : Int) : Option Binary64 := do
  let x ← round significand 1
  if x.mantissa = 0 then some x
  else if 308 < k then none
  else if 0 ≤ k then
    let p ← round (Nat.pow 10 k.toNat) 1
    x.mul p
  else
    let steps := ((-k).toNat - 1) / 308
    let y ← x.divSteps (min steps 4)
    let p ← round (Nat.pow 10 ((-k).toNat - 308 * steps)) 1
    y.div p

/-! ## To decimal notation -/

/-- The decimal c · 10^k nearest to the number among the two neighbours on the grid of 10^k,
if one of them reads back. The ends of the interval that reads back belong to it when the mantissa
is even; below a power of two the interval is half as wide. Of two equally near, the upper. -/
def nearOnGrid? (x : Binary64) (k : Int) : Option (Nat × Int) :=
  let unit := powRatio 2 (x.exponent - 2)
  let grid := powRatio 10 k
  let step := grid.1 * unit.2
  let value := 4 * x.mantissa * unit.1 * grid.2
  let below := if x.mantissa = 4503599627370496 && x.exponent != -1074 then 1 else 2
  let low := (4 * x.mantissa - below) * unit.1 * grid.2
  let high := (4 * x.mantissa + 2) * unit.1 * grid.2
  let even := x.mantissa % 2 == 0
  let c := value / step
  let down := if even then low ≤ c * step else low < c * step
  let up := if even then (c + 1) * step ≤ high else (c + 1) * step < high
  if up && (!down || (2 * c + 1) * step ≤ 2 * value) then some (c + 1, k)
  else if down then some (c, k)
  else none

/-- The shortest decimal c · 10^k that reads back as the number. -/
def shortest (x : Binary64) : Nat × Int :=
  if x.mantissa = 0 then (0, 0)
  else ((List.range 640).findSome? fun (i : Nat) => x.nearOnGrid? (310 - (i : Int))).getD (0, 0)

/-- The shortest decimal in positional notation. -/
def toChars (x : Binary64) : List Char :=
  let (c, k) := x.shortest
  if 0 ≤ k then Nat.toDigits 10 (c * Nat.pow 10 k.toNat)
  else
    let places := (-k).toNat
    Nat.toDigits 10 (c / Nat.pow 10 places) ++ '.' :: Text.padded places (c % Nat.pow 10 places)

end Binary64

end BudgetNotes
