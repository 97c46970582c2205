import BudgetNotes.Calendar.Date
import BudgetNotes.Calendar.Month
import BudgetNotes.Money
import BudgetNotes.Template.Choice
import BudgetNotes.Template.Kind

/-!
# Templates and directives

A template is the typed body of a goal, one form per kind. A directive is a
template with its marker and its priority, ready for the renderer. Directives
that are built here have the marker of their kind, and a priority only where
the kind takes one; directives that come from storage are kept as they are.

Main statement: `ofTemplate_priority_eq_none` (kinds without priority never
get one).
-/

namespace BudgetNotes

/-- A cap on spending in a window; weekly windows are counted from a start day. -/
structure SpendingLimit where
  amount : Money
  hold : Bool
  period : LimitPeriod
  start : Option Date
deriving DecidableEq

/-- An interval of so many units. -/
structure Interval where
  period : PeriodUnit
  amount : UInt32
deriving DecidableEq

/-- The interval of a periodic template that says none. -/
def Interval.monthly : Interval := ⟨.month, 1⟩

/-- How often a target repeats. -/
structure Recurrence where
  unit : RepeatUnit
  every : UInt32
deriving DecidableEq

/-- The body of a goal template. -/
inductive Template where
  | simple (monthly : Money) (limit : Option SpendingLimit)
  | percentage (percent : Decimal) (category : String) (previous : Bool)
  | periodic (amount : Money) (period : Interval) (starting : Date) (limit : Option SpendingLimit)
  | saveBy (amount : Money) (month : BudgetMonth) (recurrence : Option Recurrence)
  | spend (amount : Money) (month : BudgetMonth) (fromMonth : Option BudgetMonth)
      (recurrence : Option Recurrence)
  | schedule (name : String) (adjustment : Option Decimal) (full : Bool)
  | average (numMonths : UInt32)
  | copy (lookBack : UInt32)
  | remainder (weight : Decimal) (limit : Option SpendingLimit)
  | limit (spec : SpendingLimit)
  | goal (amount : Money)
deriving DecidableEq

/-- The kind of a template, which is what its stored tag names. -/
def Template.kind : Template → TemplateKind
  | simple .. => .simple
  | percentage .. => .percentage
  | periodic .. => .periodic
  | saveBy .. => .saveBy
  | spend .. => .spend
  | schedule .. => .schedule
  | average .. => .average
  | copy .. => .copy
  | remainder .. => .remainder
  | limit .. => .limit
  | goal .. => .goal

/-- A template with its marker and priority. -/
structure Directive where
  marker : Marker
  priority : Option Int32
  template : Template
deriving DecidableEq

namespace Directive

/-- The directive of a template: the marker follows from the kind, and a priority is dropped when
the kind takes none. -/
def ofTemplate (template : Template) (priority : Option Int32) : Directive where
  marker := template.kind.marker
  priority := if template.kind.hasPriority then priority else none
  template := template

def kind (d : Directive) : TemplateKind := d.template.kind

/-- Kinds without priority never get one. -/
theorem ofTemplate_priority_eq_none {t : Template} (p : Option Int32)
    (h : t.kind.hasPriority = false) : (ofTemplate t p).priority = none := by
  simp [ofTemplate, h]

end Directive

/-! ## Numbers in normal form

Amounts, percentages, adjustments and weights may be written with trailing
zeros. Two directives say the same when they agree once all numbers are in
normal form. -/

/-- A limit with its amount in normal form. -/
def SpendingLimit.normalize (spec : SpendingLimit) : SpendingLimit :=
  { spec with amount := spec.amount.normalize }

/-- A template with all its numbers in normal form. -/
def Template.normalize : Template → Template
  | simple monthly lim => simple monthly.normalize (lim.map SpendingLimit.normalize)
  | percentage percent category previous => percentage percent.normalize category previous
  | periodic amount period starting lim =>
    periodic amount.normalize period starting (lim.map SpendingLimit.normalize)
  | saveBy amount month recurrence => saveBy amount.normalize month recurrence
  | spend amount month fromMonth recurrence => spend amount.normalize month fromMonth recurrence
  | schedule name adjustment full => schedule name (adjustment.map Decimal.normalize) full
  | average n => average n
  | copy n => copy n
  | remainder weight lim => remainder weight.normalize (lim.map SpendingLimit.normalize)
  | limit spec => limit spec.normalize
  | goal amount => goal amount.normalize

def Directive.normalize (d : Directive) : Directive :=
  { d with template := d.template.normalize }

/-- Whether two directives are equal, numbers compared by value. -/
def Directive.Equiv (a b : Directive) : Prop := a.normalize = b.normalize

instance (a b : Directive) : Decidable (Directive.Equiv a b) :=
  inferInstanceAs (Decidable (a.normalize = b.normalize))

end BudgetNotes
