import BudgetNotes.Text.Lines
import BudgetNotes.Text.Numeral

/-!
# Calendar dates

Days of the proleptic Gregorian calendar. A date that is typed in has exactly
the form `YYYY-MM-DD`; a stored date may have blanks around its parts, short
parts, and a signed year of any length. Either way it names a real day:
nothing rolls over.
-/

namespace BudgetNotes

/-- Whether a year has 366 days. -/
def isLeapYear (year : Int) : Bool :=
  year % 4 == 0 && (year % 100 != 0 || year % 400 == 0)

/-- The number of days of a month; none for a number that is no month. -/
def daysInMonth (year : Int) : Nat → Nat
  | 1 | 3 | 5 | 7 | 8 | 10 | 12 => 31
  | 4 | 6 | 9 | 11 => 30
  | 2 => if isLeapYear year then 29 else 28
  | _ => 0

/-- A real day of a year from -262143 to 262142. -/
structure Date where
  year : Int
  month : Nat
  day : Nat
  le_year : -262143 ≤ year
  year_le : year ≤ 262142
  day_pos : 1 ≤ day
  day_le : day ≤ daysInMonth year month
deriving DecidableEq

namespace Date

/-- The day with these numbers, if there is one. -/
def ofNumbers? (year : Int) (month day : Nat) : Option Date :=
  if h : -262143 ≤ year ∧ year ≤ 262142 ∧ 1 ≤ day ∧ day ≤ daysInMonth year month then
    some ⟨year, month, day, h.1, h.2.1, h.2.2.1, h.2.2.2⟩
  else none

/-- A date's text: a year outside 0 to 9999 has a sign and at least four digits. -/
def toText (d : Date) : String :=
  let year := Text.padded 4 d.year.natAbs
  let signed := if d.year < 0 then '-' :: year else if 9999 < d.year then '+' :: year else year
  String.ofList (signed ++ '-' :: Text.padded 2 d.month ++ '-' :: Text.padded 2 d.day)

/-! ## Dates as they are typed -/

/-- Reads the characters of a date of the form `YYYY-MM-DD`. -/
def ofIsoChars? : List Char → Option Date
  | [y1, y2, y3, y4, '-', m1, m2, '-', d1, d2] => do
    let year ← Text.readNat? [y1, y2, y3, y4]
    let month ← Text.readNat? [m1, m2]
    let day ← Text.readNat? [d1, d2]
    ofNumbers? year month day
  | _ => none

/-- Reads a date of the form `YYYY-MM-DD` with white space around it. -/
def ofIso? (s : String) : Option Date :=
  ofIsoChars? (Text.trimChars s.toList)

/-! ## Dates as they are stored -/

/-- Takes leading white space and then up to `most` digits, at least one; gives their value and
what follows. -/
def takeNumber? (most : Nat) (cs : List Char) : Option (Nat × List Char) :=
  let cs := cs.dropWhile Text.isSpace
  let digits := (cs.take most).takeWhile Char.isDigit
  (Text.readNat? digits).map fun n => (n, cs.drop digits.length)

/-- Takes a year: up to four digits, or a sign and any number of digits. -/
def takeYear? (cs : List Char) : Option (Int × List Char) :=
  match cs.dropWhile Text.isSpace with
  | '-' :: rest =>
    if rest.head?.any Char.isDigit then
      (takeNumber? rest.length rest).map fun (n, rest) => (-(n : Int), rest)
    else none
  | '+' :: rest =>
    if rest.head?.any Char.isDigit then
      (takeNumber? rest.length rest).map fun (n, rest) => ((n : Int), rest)
    else none
  | cs => (takeNumber? 4 cs).map fun (n, rest) => ((n : Int), rest)

/-- Takes leading white space and a dash. -/
def takeDash? (cs : List Char) : Option (List Char) :=
  match cs.dropWhile Text.isSpace with
  | '-' :: rest => some rest
  | _ => none

def ofStored? (s : String) : Option Date := do
  let (year, rest) ← takeYear? s.toList
  let rest ← takeDash? rest
  let (month, rest) ← takeNumber? 2 rest
  let rest ← takeDash? rest
  let (day, rest) ← takeNumber? 2 rest
  if rest.all Text.isSpace then ofNumbers? year month day else none

end Date

end BudgetNotes
