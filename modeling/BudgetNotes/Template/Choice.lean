import BudgetNotes.Text.Lines
import BudgetNotes.Text.Lowercase

/-!
# Choices

Three fields of a template take one of a few words: the window of a limit,
the interval of a periodic template and the interval at which a target
repeats. Words are typed in any case, with white space around them.
-/

namespace BudgetNotes

/-- A word that is none of the choices of a field. -/
structure UnknownChoice where
  type : String
  text : String
deriving DecidableEq

/-- The wording names the type of the field and quotes the word as it was looked up. -/
def UnknownChoice.message (e : UnknownChoice) : String :=
  "Unknown " ++ e.type ++ ": '" ++ e.text ++ "'"

/-- Finds the choice whose word is the text, trimmed and in lower case. -/
def chooseByWord {α : Type} (type : String) (choices : List α) (word : α → String) (s : String) :
    Except UnknownChoice α :=
  let wanted := Text.lowercase (Text.trim s)
  match choices.find? (word · = wanted) with
  | some choice => .ok choice
  | none => .error ⟨type, wanted⟩

/-- The window a spending limit applies to. -/
inductive LimitPeriod where
  | daily
  | weekly
  | monthly
deriving DecidableEq

namespace LimitPeriod

/-- The windows, in the order of the messages. -/
def all : List LimitPeriod := [daily, weekly, monthly]

/-- The word that is typed, shown and stored for a window. -/
def word : LimitPeriod → String
  | daily => "daily"
  | weekly => "weekly"
  | monthly => "monthly"

/-- The words that a message about a window lists. -/
def choices : List String := all.map word

/-- The window of a stored word, which has to be exact. -/
def ofWord? (s : String) : Option LimitPeriod := all.find? (·.word = s)

/-- The window of a typed word. -/
def ofText : String → Except UnknownChoice LimitPeriod := chooseByWord "LimitPeriod" all word

end LimitPeriod

/-- The interval unit of a periodic template. -/
inductive PeriodUnit where
  | day
  | week
  | month
  | year
deriving DecidableEq

namespace PeriodUnit

/-- The interval units, in the order of the messages. -/
def all : List PeriodUnit := [day, week, month, year]

/-- The word that is typed, shown and stored for an interval unit. -/
def word : PeriodUnit → String
  | day => "day"
  | week => "week"
  | month => "month"
  | year => "year"

/-- The words that a message about an interval unit lists. -/
def choices : List String := all.map word

/-- The interval unit of a stored word, which has to be exact. -/
def ofWord? (s : String) : Option PeriodUnit := all.find? (·.word = s)

/-- The interval unit of a typed word. -/
def ofText : String → Except UnknownChoice PeriodUnit := chooseByWord "PeriodUnit" all word

end PeriodUnit

/-- The interval unit of a target that repeats. -/
inductive RepeatUnit where
  | month
  | year
deriving DecidableEq

namespace RepeatUnit

/-- The units of a repetition, in the order of the messages. -/
def all : List RepeatUnit := [month, year]

/-- The word that is typed, shown and stored for a unit of repetition. -/
def word : RepeatUnit → String
  | month => "month"
  | year => "year"

/-- The words that a message about a unit of repetition lists. -/
def choices : List String := all.map word

/-- The unit of repetition of a stored word, which has to be exact. -/
def ofWord? (s : String) : Option RepeatUnit := all.find? (·.word = s)

/-- The unit of repetition of a typed word. -/
def ofText : String → Except UnknownChoice RepeatUnit := chooseByWord "RepeatUnit" all word

end RepeatUnit

end BudgetNotes
