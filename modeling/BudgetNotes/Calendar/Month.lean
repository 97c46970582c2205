import BudgetNotes.Text.Lines
import BudgetNotes.Text.Numeral

/-!
# Budget months

A month such as `2025-03`. It is read from four digits, a dash and two digits,
white space around them dropped. Digits of any script have the form of a
month, but only ASCII digits have a value, so the error tells which part
could not be read.
-/

namespace BudgetNotes

/-- A calendar month. -/
structure BudgetMonth where
  year : Int
  month : Nat
  month_mem : 1 ≤ month ∧ month ≤ 12
deriving DecidableEq

/-- Why a text is no month; each keeps the text as it was given. -/
inductive MonthError where
  | invalidMonth (text : String)
  | invalidYear (text : String)
  | outOfRange (text : String)
deriving DecidableEq

def MonthError.message : MonthError → String
  | .invalidMonth text => "Invalid month: '" ++ text ++ "'"
  | .invalidYear text => "Invalid year: '" ++ text ++ "'"
  | .outOfRange text => "Month out of range: '" ++ text ++ "'"

namespace BudgetMonth

/-- The month of a year, if its number is from 1 to 12. -/
def ofNumbers? (year : Int) (month : Nat) : Option BudgetMonth :=
  if h : 1 ≤ month ∧ month ≤ 12 then some ⟨year, month, h⟩ else none

/-- The four year digits and two month digits of a text of a month's form. -/
def parts? : List Char → Option (List Char × List Char)
  | [y1, y2, y3, y4, '-', m1, m2] =>
    if [y1, y2, y3, y4, m1, m2].all Text.isDecimalDigit then some ([y1, y2, y3, y4], [m1, m2])
    else none
  | _ => none

def ofText (s : String) : Except MonthError BudgetMonth :=
  match parts? (Text.trimChars s.toList) with
  | none => .error (.invalidMonth s)
  | some (yearDigits, monthDigits) =>
    match Text.readNat? yearDigits with
    | none => .error (.invalidYear s)
    | some year =>
      match Text.readNat? monthDigits with
      | none => .error (.invalidMonth s)
      | some month =>
        match ofNumbers? year month with
        | none => .error (.outOfRange s)
        | some m => .ok m

/-- A month's text: the year in at least four characters, its sign among them, and two digits. -/
def toText (m : BudgetMonth) : String :=
  let year := if m.year < 0 then '-' :: Text.padded 3 m.year.natAbs
    else Text.padded 4 m.year.natAbs
  String.ofList (year ++ '-' :: Text.padded 2 m.month)

end BudgetMonth

end BudgetNotes
