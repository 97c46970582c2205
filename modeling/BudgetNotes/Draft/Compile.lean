import BudgetNotes.Draft.Basic
import BudgetNotes.Draft.FieldReader
import BudgetNotes.Text.Lines

/-!
# Compiling drafts

A draft is compiled to a directive, or to all of its problems: first its
label, then its priority if its kind takes one, then its fields in the order
of the form. A field is read by itself; only two checks look at more than one
field, a weekly limit without a start day and a repetition without a unit.

A list of drafts compiles to the directives of the drafts that compile, and
the problems of all others with their positions.
-/

namespace BudgetNotes

/-! ## Parts of a form -/

namespace LimitForm

/-- The window of a limit; a blank one is monthly. -/
def checkPeriod (form : LimitForm) : Check LimitPeriod :=
  (Field.limitPeriod.optionalChoice LimitPeriod.ofText LimitPeriod.choices form.period).map
    fun period => period.getD .monthly

/-- The start day of a limit. -/
def checkStart (form : LimitForm) : Check (Option Date) :=
  Field.limitStart.optionalDate form.start

/-- Compiles a limit. A weekly limit needs a start day. -/
def compile (form : LimitForm) : Check SpendingLimit :=
  let amount := Field.limitAmount.money form.amount
  let period := form.checkPeriod
  let start := form.checkStart
  let limit := Check.map2 (fun amount (period, start) => ⟨amount, form.hold, period, start⟩)
    amount (.both period start)
  if period = .ok .weekly ∧ start = .ok none then limit.addProblem .weeklyLimitWithoutStart
  else limit

end LimitForm

/-- Compiles a limit that is switched on. -/
def LimitToggle.compile (toggle : LimitToggle) : Check (Option SpendingLimit) :=
  if toggle.enabled then toggle.form.compile.map some else .ok none

namespace TargetForm

/-- The repetition of a target: a count needs a unit, a unit by itself repeats every one. -/
def compileRepeat (form : TargetForm) : Check (Option Recurrence) :=
  (Check.both (Field.repeatAmount.optionalCount form.repeatAmount)
    (Field.repeatUnit.optionalChoice RepeatUnit.ofText RepeatUnit.choices form.repeatUnit)).andThen
    fun
    | (some _, none) => .fail .repeatWithoutUnit
    | (every, some unit) => .ok (some ⟨unit, every.getD 1⟩)
    | (none, none) => .ok none

def compileSaveBy (form : TargetForm) : Check Template :=
  Check.map2 (fun amount (month, recurrence) => .saveBy amount month recurrence)
    (Field.amount.money form.amount)
    (.both (Field.month.budgetMonth form.month) form.compileRepeat)

def compileSpend (form : TargetForm) : Check Template :=
  Check.map2 (fun amount (month, fromMonth, recurrence) => .spend amount month fromMonth recurrence)
    (Field.amount.money form.amount)
    (.both (Field.month.budgetMonth form.month)
      (.both (Field.fromMonth.optionalMonth form.fromMonth) form.compileRepeat))

end TargetForm

/-- The interval of a periodic template; a blank count is one, a blank unit a month. -/
def compileInterval (repeatAmount repeatUnit : String) : Check Interval :=
  Check.map2 (fun every unit => ⟨unit.getD .month, every.getD 1⟩)
    (Field.repeatAmount.optionalCount repeatAmount)
    (Field.repeatUnit.optionalChoice PeriodUnit.ofText PeriodUnit.choices repeatUnit)

/-- Compiles a form, field by field. -/
def Form.compile : Form → Check Template
  | .simple monthly lim =>
    .map2 .simple (Field.monthlyAmount.money monthly) lim.compile
  | .percentage percent category previous =>
    .map2 (fun percent category => .percentage percent category previous)
      (Field.percent.decimal percent) (Field.category.text category)
  | .periodic amount starting repeatAmount repeatUnit lim =>
    .map2 (fun amount (starting, period, lim) => .periodic amount period starting lim)
      (Field.amount.money amount)
      (.both (Field.startingDate.date starting)
        (.both (compileInterval repeatAmount repeatUnit) lim.compile))
  | .saveBy target => target.compileSaveBy
  | .spend target => target.compileSpend
  | .schedule name adjustment full =>
    .map2 (fun name adjustment => .schedule name adjustment full)
      (Field.scheduleName.text name) (Field.adjustment.optionalDecimal adjustment)
  | .average n => (Field.numberOfMonths.count n).map .average
  | .copy n => (Field.lookBackMonths.count n).map .copy
  | .remainder weight lim =>
    .map2 (fun weight lim => .remainder (weight.getD .one) lim)
      (Field.weight.optionalDecimal weight) lim.compile
  | .limit form => form.compile.map .limit
  | .goal amount => (Field.amount.money amount).map .goal

/-! ## Drafts -/

namespace Draft

/-- Whether a blank line would split a label from its directive. Blank lines around the label do
not count. -/
def labelHasGap (label : String) : Bool :=
  !Text.isBlank label && (Text.splitLines (Text.trim label)).any Text.isBlank

def checkLabel (label : String) : Check Unit :=
  if labelHasGap label then .fail .blankLineInLabel else .ok ()

/-- The check of a priority, for kinds that take one. -/
def checkPriority (kind : TemplateKind) (raw : String) : Check (Option Int32) :=
  if kind.hasPriority then Field.priority.optionalPriority raw else .ok none

def compile (draft : Draft) : Check Directive :=
  .map2 (fun _ (priority, template) => .ofTemplate template priority)
    (checkLabel draft.label)
    (.both (checkPriority draft.kind draft.priority) draft.form.compile)

end Draft

/-! ## Lists of drafts -/

/-- The outcome of compiling a list of drafts. -/
structure Compilation where
  directives : List Directive
  problems : List LocatedProblem
deriving DecidableEq

namespace Compilation

def isOk (compilation : Compilation) : Bool := compilation.problems.isEmpty

def messages (compilation : Compilation) : List String :=
  compilation.problems.map LocatedProblem.message

/-- Puts a draft's check, at a position, before the outcome of the drafts after it. -/
def cons (position : Nat) (check : Check Directive) (rest : Compilation) : Compilation where
  directives := check.value?.toList ++ rest.directives
  problems := check.problems.map (LocatedProblem.mk position) ++ rest.problems

/-- Compiles drafts, the first of them at `position`. -/
def fromPosition (position : Nat) : List Draft → Compilation
  | [] => ⟨[], []⟩
  | draft :: rest => cons position draft.compile (fromPosition (position + 1) rest)

/-- Compiles every draft; a draft with problems adds no directive. -/
def ofDrafts (drafts : List Draft) : Compilation := fromPosition 1 drafts

end Compilation

end BudgetNotes
