import BudgetNotes.Text.Numeral

/-!
# Problems of a draft

What can be wrong with one draft: a field that is missing or unreadable, or
two parts that do not fit together. Fields are named as the user sees them.
-/

namespace BudgetNotes

/-- A field that the compiler reads. -/
inductive Field where
  | priority
  | monthlyAmount
  | percent
  | category
  | amount
  | startingDate
  | repeatAmount
  | repeatUnit
  | month
  | fromMonth
  | scheduleName
  | adjustment
  | numberOfMonths
  | lookBackMonths
  | weight
  | limitAmount
  | limitPeriod
  | limitStart
deriving DecidableEq

/-- The name of a field in messages. -/
def Field.label : Field → String
  | priority => "priority"
  | monthlyAmount => "monthly amount"
  | percent => "percent"
  | category => "category"
  | amount => "amount"
  | startingDate => "starting date"
  | repeatAmount => "repeat amount"
  | repeatUnit => "repeat unit"
  | month => "month"
  | fromMonth => "from month"
  | scheduleName => "schedule name"
  | adjustment => "adjustment"
  | numberOfMonths => "number of months"
  | lookBackMonths => "look-back months"
  | weight => "weight"
  | limitAmount => "limit amount"
  | limitPeriod => "limit period"
  | limitStart => "limit start date"

/-- A problem of a single draft. -/
inductive Problem where
  | required (field : Field)
  | notANumber (field : Field)
  | tooPrecise (field : Field)
  | notAWholeNumber (field : Field)
  | notPositive (field : Field)
  | invalidDate (field : Field)
  | invalidMonth (field : Field)
  | invalidChoice (field : Field) (allowed : List String)
  | repeatWithoutUnit
  | weeklyLimitWithoutStart
  | blankLineInLabel
deriving DecidableEq

def Problem.message : Problem → String
  | required f => f.label ++ " is required"
  | notANumber f => f.label ++ " must be a number"
  | tooPrecise f => f.label ++ " can have at most two decimal places"
  | notAWholeNumber f => f.label ++ " must be a whole number"
  | notPositive f => f.label ++ " must be greater than zero"
  | invalidDate f => f.label ++ " must be a valid date (YYYY-MM-DD)"
  | invalidMonth f => f.label ++ " must be a valid month (YYYY-MM)"
  | invalidChoice f allowed => f.label ++ " must be one of " ++ String.intercalate ", " allowed
  | repeatWithoutUnit => "repeat unit is required when repeat is set"
  | weeklyLimitWithoutStart => "weekly limit requires a start date"
  | blankLineInLabel => "label cannot contain a blank line"

/-- A problem with the position of its draft, counted from 1. -/
structure LocatedProblem where
  position : Nat
  problem : Problem
deriving DecidableEq

def LocatedProblem.message (p : LocatedProblem) : String :=
  "Template " ++ Text.numeral p.position ++ ": " ++ p.problem.message

end BudgetNotes
