import BudgetNotes.Proofs.Draft.Readers

/-!
# Compiling in one pass

A form can also be compiled in one pass that carries a list of problems along.
A reader that fails writes its problem at the end of the list and has no value;
the pass goes on with the next field, and stops only where a value is missing
that it needs. Nothing in such a pass keeps a value from being lost without a
word, so this has to be seen of each reader:

> `Recorder.Does`: a pass has a value or writes problems, those of a check.

Main statement: `Draft.record_eq`, compiling in one pass is `Draft.compile`.
-/

namespace BudgetNotes

/-! ## Recorders -/

/-- A pass that carries the problems so far. What it reads has a value if nothing is missing for
it. -/
abbrev Recorder := StateM (List Problem)

namespace Recorder

variable {α β : Type}

/-- Writes a problem, and has no value. -/
def fail (p : Problem) : Recorder (Option α) := do
  modify (· ++ [p])
  return none

/-- Goes on with the value. Without one it stops, and relies on the problem to be written. -/
def andThen (m : Recorder (Option α)) (next : α → Recorder (Option β)) : Recorder (Option β) := do
  match ← m with
  | some a => next a
  | none => return none

end Recorder

namespace Field

/-- Reads a field unless it is blank. -/
def recordOptional {α : Type} (read : String → Except Problem α) (raw : String) :
    Recorder (Option (Option α)) :=
  match present? raw with
  | none => return some none
  | some text =>
    match read text with
    | .ok a => return some (some a)
    | .error p => .fail p

variable (field : Field)

/-- Insists on a value. A problem was written if there is not even none. -/
def recordRequire {α : Type} (value : Option (Option α)) : Recorder (Option α) :=
  match value with
  | some (some a) => return some a
  | some none => .fail (.required field)
  | none => return none

/-- Reads a decimal that may be left out. -/
def recordOptionalDecimal : String → Recorder (Option (Option Decimal)) :=
  recordOptional fun text => (Decimal.ofTyped text).mapError fun _ => .notANumber field

/-- Reads a decimal that is insisted on. -/
def recordDecimal (raw : String) : Recorder (Option Decimal) := do
  field.recordRequire (← field.recordOptionalDecimal raw)

/-- Reads an amount. Its places are counted once it is a decimal. -/
def recordMoney (raw : String) : Recorder (Option Money) :=
  (field.recordDecimal raw).andThen fun x =>
    match Money.ofDecimal? x with
    | some m => return some m
    | none => .fail (.tooPrecise field)

/-- Reads an integer that may be left out. -/
def recordOptionalWhole (low high : Int) (raw : String) : Recorder (Option (Option Int)) :=
  (field.recordOptionalDecimal raw).andThen fun
    | none => return some none
    | some x =>
      match x.toInt?.filter fun n => low ≤ n ∧ n ≤ high with
      | some n => return some (some n)
      | none => .fail (.notAWholeNumber field)

/-- Reads a priority that may be left out, a signed number of 32 bits. -/
def recordOptionalPriority (raw : String) : Recorder (Option (Option Int32)) := do
  return (← field.recordOptionalWhole (-2147483648) 2147483647 raw).map (·.map Int32.ofInt)

/-- Reads a count that may be left out. Zero is told apart, after the range. -/
def recordOptionalCount (raw : String) : Recorder (Option (Option UInt32)) :=
  (field.recordOptionalWhole 0 4294967295 raw).andThen fun n =>
    if n = some 0 then .fail (.notPositive field)
    else return some (n.map fun n => UInt32.ofNat n.toNat)

/-- Reads a count that is insisted on. -/
def recordCount (raw : String) : Recorder (Option UInt32) := do
  field.recordRequire (← field.recordOptionalCount raw)

/-- Insists on a text, and takes it as it is. -/
def recordText (raw : String) : Recorder (Option String) :=
  field.recordRequire (some (present? raw))

/-- Reads a date that may be left out. -/
def recordOptionalDate : String → Recorder (Option (Option Date)) :=
  recordOptional fun text => (Date.ofIso? text).elim (.error (.invalidDate field)) .ok

/-- Reads a date that is insisted on. -/
def recordDate (raw : String) : Recorder (Option Date) := do
  field.recordRequire (← field.recordOptionalDate raw)

/-- Reads a month that may be left out. -/
def recordOptionalMonth : String → Recorder (Option (Option BudgetMonth)) :=
  recordOptional fun text => (BudgetMonth.ofText text).mapError fun _ => .invalidMonth field

/-- Reads a month that is insisted on. -/
def recordMonth (raw : String) : Recorder (Option BudgetMonth) := do
  field.recordRequire (← field.recordOptionalMonth raw)

/-- Reads a choice that may be left out. -/
def recordChoice {α : Type} (read : String → Except UnknownChoice α) (allowed : List String) :
    String → Recorder (Option (Option α)) :=
  recordOptional fun text => (read text).mapError fun _ => .invalidChoice field allowed

end Field

/-! ## Forms in one pass -/

/-- Reads the window of a limit; a blank one is monthly. -/
def LimitForm.recordPeriod (form : LimitForm) : Recorder (Option LimitPeriod) := do
  return (← Field.limitPeriod.recordChoice LimitPeriod.ofText LimitPeriod.choices form.period).map
    (·.getD .monthly)

/-- Reads a limit. Whether a start is missing is asked once window and start were read. -/
def LimitForm.record (form : LimitForm) : Recorder (Option SpendingLimit) := do
  let amount ← Field.limitAmount.recordMoney form.amount
  let period ← form.recordPeriod
  let start ← Field.limitStart.recordOptionalDate form.start
  if period = some .weekly ∧ start = some none then .fail .weeklyLimitWithoutStart
  else return do some ⟨← amount, form.hold, ← period, ← start⟩

/-- A limit that is switched off is not read at all. -/
def LimitToggle.record (toggle : LimitToggle) : Recorder (Option (Option SpendingLimit)) :=
  if toggle.enabled then do return (← toggle.form.record).map some else return some none

/-- The repetition of a target; it is not looked at unless both its fields could be read. -/
def TargetForm.recordRepeat (form : TargetForm) : Recorder (Option (Option Recurrence)) := do
  let every ← Field.repeatAmount.recordOptionalCount form.repeatAmount
  let unit ← Field.repeatUnit.recordChoice RepeatUnit.ofText RepeatUnit.choices form.repeatUnit
  match every, unit with
  | none, _ => return none
  | _, none => return none
  | some (some _), some none => .fail .repeatWithoutUnit
  | some every, some (some unit) => return some (some ⟨unit, every.getD 1⟩)
  | some none, some none => return some none

/-- Compiles a form in one pass. The fields are read one after the other, and put together if none
is missing. -/
def Form.record : Form → Recorder (Option Template)
  | .simple monthly lim => do
    let monthly ← Field.monthlyAmount.recordMoney monthly
    lim.record.andThen fun lim => return do some (.simple (← monthly) lim)
  | .percentage percent category previous => do
    let percent ← Field.percent.recordDecimal percent
    let category ← Field.category.recordText category
    return do some (.percentage (← percent) (← category) previous)
  | .periodic amount starting repeatAmount repeatUnit lim => do
    let amount ← Field.amount.recordMoney amount
    let starting ← Field.startingDate.recordDate starting
    let every ← Field.repeatAmount.recordOptionalCount repeatAmount
    let unit ← Field.repeatUnit.recordChoice PeriodUnit.ofText PeriodUnit.choices repeatUnit
    lim.record.andThen fun lim => return do
      let amount ← amount
      let starting ← starting
      let every ← every
      some (.periodic amount ⟨(← unit).getD .month, every.getD 1⟩ starting lim)
  | .saveBy target => do
    let amount ← Field.amount.recordMoney target.amount
    let month ← Field.month.recordMonth target.month
    let recurrence ← target.recordRepeat
    return do some (.saveBy (← amount) (← month) (← recurrence))
  | .spend target => do
    let amount ← Field.amount.recordMoney target.amount
    let month ← Field.month.recordMonth target.month
    let fromMonth ← Field.fromMonth.recordOptionalMonth target.fromMonth
    let recurrence ← target.recordRepeat
    return do some (.spend (← amount) (← month) (← fromMonth) (← recurrence))
  | .schedule name adjustment full => do
    let name ← Field.scheduleName.recordText name
    let adjustment ← Field.adjustment.recordOptionalDecimal adjustment
    return do some (.schedule (← name) (← adjustment) full)
  | .average n => do return (← Field.numberOfMonths.recordCount n).map .average
  | .copy n => do return (← Field.lookBackMonths.recordCount n).map .copy
  | .remainder weight lim => do
    let weight ← Field.weight.recordOptionalDecimal weight
    lim.record.andThen fun lim => return do some (.remainder ((← weight).getD .one) lim)
  | .limit form => do return (← form.record).map .limit
  | .goal amount => do return (← Field.amount.recordMoney amount).map .goal

namespace Draft

/-- Looks for a blank line in the label. -/
def recordLabel (label : String) : Recorder (Option Unit) :=
  if labelHasGap label then .fail .blankLineInLabel else return some ()

/-- A priority is not read for a kind that takes none. -/
def recordPriority (kind : TemplateKind) (raw : String) : Recorder (Option (Option Int32)) :=
  if kind.hasPriority then Field.priority.recordOptionalPriority raw else return some none

/-- The pass over a whole draft. A priority that could not be read is left out. -/
def recordParts (draft : Draft) : Recorder (Option Directive) := do
  let _ ← recordLabel draft.label
  let priority ← recordPriority draft.kind draft.priority
  return (← draft.form.record).map (.ofTemplate · priority.join)

/-- Compiles a draft in one pass. Whatever was written makes it fail, and so does a missing
directive, be there a problem or not. -/
def record (draft : Draft) : Except (List Problem) Directive :=
  match draft.recordParts.run [] with
  | (some d, []) => .ok d
  | (_, problems) => .error problems

end Draft

/-! ## What a pass does -/

namespace Recorder

variable {α β γ : Type}

/-- Whatever was written before, the pass has the value of the check, or none without one, and
writes the problems of the check. -/
def Does (m : Recorder (Option α)) (c : Check α) : Prop :=
  ∀ problems, m.run problems = (c.value?, problems ++ c.problems)

variable {m : Recorder (Option α)} {c : Check α}

/-- A value is had without a word. -/
theorem does_ok (a : α) : Does (return some a) (.ok a) := by
  intro problems
  exact congrArg (Prod.mk (some a)) (List.append_nil problems).symm

/-- A problem is written, and there is no value. -/
theorem does_fail (p : Problem) : Does (fail p : Recorder (Option α)) (.fail p) :=
  fun _ => rfl

/-- What comes after a pass starts with its value, and after its problems. -/
theorem Does.run_bind (h : Does m c) (next : Option α → Recorder β) (problems : List Problem) :
    (m >>= next).run problems = (next c.value?).run (problems ++ c.problems) := by
  show (next (m.run problems).1).run (m.run problems).2 = _
  rw [h problems]

/-- What a value is turned into does not matter. -/
theorem Does.map (h : Does m c) (f : α → β) :
    Does (do return (← m).map f) (c.map f) := by
  intro problems
  rw [h.run_bind]
  cases c with
  | ok a => rfl
  | failed p ps => rfl

/-- A pass that goes on with the value does so after its problems, and stops without one. -/
theorem Does.run_andThen (h : Does m c) (next : α → Recorder (Option β))
    (problems : List Problem) :
    (m.andThen next).run problems =
      c.value?.elim (none, problems ++ c.problems) fun a =>
        (next a).run (problems ++ c.problems) := by
  unfold Recorder.andThen
  rw [h.run_bind]
  cases c with
  | ok a => rfl
  | failed p ps => rfl

/-- A further pass does the further check. -/
theorem Does.andThen (h : Does m c) {next : α → Recorder (Option β)} {check : α → Check β}
    (hnext : ∀ a, Does (next a) (check a)) : Does (m.andThen next) (c.andThen check) := by
  intro problems
  rw [h.run_andThen]
  cases c with
  | ok a =>
    show (next a).run (problems ++ []) = _
    rw [List.append_nil]
    exact hnext a problems
  | failed p ps => rfl

/-- A pass that puts its last value to what was read before. -/
theorem Does.run_last (h : Does m c) (put : α → Option β) (problems : List Problem) :
    (m.andThen fun a => return put a).run problems =
      (c.value?.bind put, problems ++ c.problems) := by
  rw [h.run_andThen]
  cases c with
  | ok a => rfl
  | failed p ps => rfl

/-- A pass that ends with nothing more to write. -/
theorem run_return (a : α) (problems : List Problem) :
    (pure a : Recorder α).run problems = (a, problems) := rfl

end Recorder

/-! ## Fields -/

namespace Field

open Recorder

/-- A pass over a field checks it if it reads a text as the check does. -/
theorem does_recordOptional {α : Type} {read : String → Except Problem α}
    {check : String → Check α}
    (h : ∀ text, check text = match read text with
      | .ok a => .ok a
      | .error p => .fail p) (raw : String) :
    Does (recordOptional read raw) (optional check raw) := by
  unfold recordOptional optional
  cases present? raw with
  | none => exact does_ok none
  | some text =>
    simp only [h]
    cases read text with
    | ok a => exact does_ok (some a)
    | error p => exact does_fail p

variable (field : Field)

/-- Insisting writes a problem only if none was written for the field. -/
theorem does_recordRequire {α : Type} {m : Recorder (Option (Option α))}
    {c : Check (Option α)} (h : Does m c) :
    Does (do field.recordRequire (← m)) (field.require c) := by
  intro problems
  rw [h.run_bind]
  cases c with
  | ok v =>
    cases v with
    | none => exact congrArg (Prod.mk none) (List.append_assoc ..)
    | some a => rfl
  | failed p ps => rfl

theorem does_recordOptionalDecimal (raw : String) :
    Does (field.recordOptionalDecimal raw) (field.optionalDecimal raw) := by
  refine does_recordOptional (fun text => ?_) raw
  unfold number
  cases Decimal.ofTyped text with
  | ok x => rfl
  | error e => rfl

theorem does_recordDecimal (raw : String) :
    Does (field.recordDecimal raw) (field.decimal raw) :=
  field.does_recordRequire (field.does_recordOptionalDecimal raw)

/-- An amount is checked in two steps, and so it is in the pass. -/
theorem does_recordMoney (raw : String) : Does (field.recordMoney raw) (field.money raw) := by
  refine (field.does_recordDecimal raw).andThen fun x => ?_
  unfold cents
  cases Money.ofDecimal? x with
  | some m => exact does_ok m
  | none => exact does_fail _

/-- A whole number is read from a decimal: what is out of range or no integer is refused. -/
theorem does_recordOptionalWhole (low high : Int) (raw : String) :
    Does (field.recordOptionalWhole low high raw)
      (optional (fun text => (field.number text).andThen (field.wholeIn low high)) raw) := by
  rw [optional_andThen]
  refine (field.does_recordOptionalDecimal raw).andThen fun x => ?_
  cases x with
  | none => exact does_ok none
  | some x =>
    show Does (match x.toInt?.filter fun n => low ≤ n ∧ n ≤ high with
      | some n => return some (some n)
      | none => .fail (.notAWholeNumber field)) ((field.wholeIn low high x).map some)
    unfold wholeIn
    cases x.toInt? with
    | none => exact does_fail _
    | some n =>
      by_cases hrange : low ≤ n ∧ n ≤ high
      · simp only [Option.filter_some, decide_eq_true hrange, if_pos hrange]
        exact does_ok (some n)
      · simp only [Option.filter_some, decide_eq_false hrange, if_neg hrange]
        exact does_fail _

/-- The range comes before the type, in the pass as in the check. -/
theorem does_recordOptionalPriority (raw : String) :
    Does (field.recordOptionalPriority raw) (field.optionalPriority raw) := by
  unfold optionalPriority
  rw [optional_map]
  exact (field.does_recordOptionalWhole _ _ raw).map _

/-- A zero passes the range and is refused after it. -/
theorem does_recordOptionalCount (raw : String) :
    Does (field.recordOptionalCount raw) (field.optionalCount raw) := by
  unfold optionalCount
  rw [optional_andThen]
  refine (field.does_recordOptionalWhole _ _ raw).andThen fun n => ?_
  cases n with
  | none => exact does_ok none
  | some n =>
    simp only [Option.some.injEq, positive]
    split
    next => exact does_fail _
    next => exact does_ok _

theorem does_recordCount (raw : String) : Does (field.recordCount raw) (field.count raw) :=
  field.does_recordRequire (field.does_recordOptionalCount raw)

theorem does_recordText (raw : String) : Does (field.recordText raw) (field.text raw) :=
  field.does_recordRequire (does_ok (present? raw))

theorem does_recordOptionalDate (raw : String) :
    Does (field.recordOptionalDate raw) (field.optionalDate raw) := by
  refine does_recordOptional (fun text => ?_) raw
  cases Date.ofIso? text with
  | some d => rfl
  | none => rfl

theorem does_recordDate (raw : String) : Does (field.recordDate raw) (field.date raw) :=
  field.does_recordRequire (field.does_recordOptionalDate raw)

theorem does_recordOptionalMonth (raw : String) :
    Does (field.recordOptionalMonth raw) (field.optionalMonth raw) := by
  refine does_recordOptional (fun text => ?_) raw
  cases BudgetMonth.ofText text with
  | ok m => rfl
  | error e => rfl

theorem does_recordMonth (raw : String) :
    Does (field.recordMonth raw) (field.budgetMonth raw) :=
  field.does_recordRequire (field.does_recordOptionalMonth raw)

theorem does_recordChoice {α : Type} (read : String → Except UnknownChoice α)
    (allowed : List String) (raw : String) :
    Does (field.recordChoice read allowed raw) (field.optionalChoice read allowed raw) := by
  refine does_recordOptional (fun text => ?_) raw
  cases read text with
  | ok a => rfl
  | error e => rfl

end Field

/-! ## Forms -/

open Recorder

theorem LimitForm.does_recordPeriod (form : LimitForm) :
    Does form.recordPeriod form.checkPeriod :=
  (Field.limitPeriod.does_recordChoice _ _ form.period).map _

/-- The missing start of a weekly limit is written after the problems of the fields. -/
theorem LimitForm.does_record (form : LimitForm) : Does form.record form.compile := by
  have hamount := Field.limitAmount.does_recordMoney form.amount
  have hstart := Field.limitStart.does_recordOptionalDate form.start
  intro problems
  unfold record compile checkStart
  rw [hamount.run_bind, form.does_recordPeriod.run_bind, hstart.run_bind]
  generalize Field.limitAmount.money form.amount = amount
  generalize form.checkPeriod = period
  generalize Field.limitStart.optionalDate form.start = start
  simp only [Check.value?_eq_some_iff]
  by_cases hgap : period = .ok .weekly ∧ start = .ok none
  · rw [if_pos hgap, if_pos hgap, Check.problems_addProblem, Check.problems_map2,
      Check.problems_both, Check.value?_addProblem]
    simp only [← List.append_assoc]
    rfl
  · rw [if_neg hgap, if_neg hgap, run_return]
    simp [Option.bind_assoc]

/-- Of a limit that is off, nothing is written. -/
theorem LimitToggle.does_record (toggle : LimitToggle) : Does toggle.record toggle.compile := by
  unfold record compile
  cases toggle.enabled with
  | true => exact toggle.form.does_record.map some
  | false => exact does_ok none

/-- A missing unit is written only if both fields could be read, and then nothing was written for
them. -/
theorem TargetForm.does_recordRepeat (form : TargetForm) :
    Does form.recordRepeat form.compileRepeat := by
  have hevery := Field.repeatAmount.does_recordOptionalCount form.repeatAmount
  have hunit := Field.repeatUnit.does_recordChoice RepeatUnit.ofText RepeatUnit.choices
    form.repeatUnit
  intro problems
  unfold recordRepeat compileRepeat
  rw [hevery.run_bind, hunit.run_bind, List.append_assoc, ← Check.problems_both]
  generalize Field.repeatAmount.optionalCount form.repeatAmount = every
  generalize Field.repeatUnit.optionalChoice RepeatUnit.ofText RepeatUnit.choices form.repeatUnit =
    unit
  cases every with
  | failed p ps => cases unit <;> rfl
  | ok every =>
    cases unit with
    | failed p ps => rfl
    | ok unit =>
      -- both fields could be read, so nothing was written yet
      show _ = (_, problems ++ _)
      rw [show (Check.both (.ok every) (.ok unit)).problems = [] from rfl, List.append_nil]
      cases unit with
      | none =>
        cases every with
        | none => exact does_ok none problems
        | some n => rfl
      | some unit =>
        cases every with
        | none => exact does_ok _ problems
        | some n => exact does_ok _ problems

/-- A form is read field by field, so what was written is that of its fields in order. -/
theorem Form.does_record (form : Form) : Does form.record form.compile := by
  intro problems
  unfold record compile
  cases form with
  | simple monthly lim =>
    simp only
    rw [(Field.monthlyAmount.does_recordMoney monthly).run_bind, lim.does_record.run_last]
    cases lim.compile <;> simp
  | percentage percent category previous =>
    simp only
    rw [(Field.percent.does_recordDecimal percent).run_bind,
      (Field.category.does_recordText category).run_bind, run_return]
    simp
  | periodic amount starting repeatAmount repeatUnit lim =>
    simp only
    rw [(Field.amount.does_recordMoney amount).run_bind,
      (Field.startingDate.does_recordDate starting).run_bind,
      (Field.repeatAmount.does_recordOptionalCount repeatAmount).run_bind,
      (Field.repeatUnit.does_recordChoice _ _ repeatUnit).run_bind, lim.does_record.run_last]
    cases lim.compile <;> simp [compileInterval, Option.bind_assoc]
  | saveBy target =>
    simp only
    rw [(Field.amount.does_recordMoney target.amount).run_bind,
      (Field.month.does_recordMonth target.month).run_bind, target.does_recordRepeat.run_bind,
      run_return]
    simp [TargetForm.compileSaveBy, Option.bind_assoc]
  | spend target =>
    simp only
    rw [(Field.amount.does_recordMoney target.amount).run_bind,
      (Field.month.does_recordMonth target.month).run_bind,
      (Field.fromMonth.does_recordOptionalMonth target.fromMonth).run_bind,
      target.does_recordRepeat.run_bind, run_return]
    simp [TargetForm.compileSpend, Option.bind_assoc]
  | schedule name adjustment full =>
    simp only
    rw [(Field.scheduleName.does_recordText name).run_bind,
      (Field.adjustment.does_recordOptionalDecimal adjustment).run_bind, run_return]
    simp
  | average n => exact (Field.numberOfMonths.does_recordCount n).map _ problems
  | copy n => exact (Field.lookBackMonths.does_recordCount n).map _ problems
  | remainder weight lim =>
    simp only
    rw [(Field.weight.does_recordOptionalDecimal weight).run_bind, lim.does_record.run_last]
    cases lim.compile <;> simp
  | limit form => exact form.does_record.map _ problems
  | goal amount => exact (Field.amount.does_recordMoney amount).map _ problems

/-! ## Drafts -/

/-- The value of a check, or its problems. -/
def Check.toExcept {α : Type} (c : Check α) : Except (List Problem) α :=
  match c.value? with
  | some a => .ok a
  | none => .error c.problems

namespace Draft

/-- A label is checked first. -/
theorem does_recordLabel (label : String) : Does (recordLabel label) (checkLabel label) := by
  unfold recordLabel checkLabel
  split
  next => exact does_fail _
  next => exact does_ok ()

/-- A priority is checked if the kind takes one. -/
theorem does_recordPriority (kind : TemplateKind) (raw : String) :
    Does (recordPriority kind raw) (checkPriority kind raw) := by
  unfold recordPriority checkPriority
  split
  next => exact Field.priority.does_recordOptionalPriority raw
  next => exact does_ok none

/-- A pass over a draft writes its problems. Its directive may be there even so, without the
priority that could not be read. -/
theorem run_recordParts (draft : Draft) :
    draft.recordParts.run [] =
      (draft.form.compile.value?.map
        (.ofTemplate · (checkPriority draft.kind draft.priority).value?.join),
        draft.compile.problems) := by
  unfold recordParts
  rw [(does_recordLabel draft.label).run_bind, (does_recordPriority _ _).run_bind,
    draft.form.does_record.run_bind, run_return]
  unfold compile
  rw [Check.problems_map2, Check.problems_both, List.nil_append, List.append_assoc]

/-- **Compiling in one pass is compiling.** -/
theorem record_eq (draft : Draft) : draft.record = draft.compile.toExcept := by
  unfold record
  rw [run_recordParts]
  cases hcompile : draft.compile with
  | failed p ps =>
    -- with a problem written, it does not matter whether there is a directive
    cases draft.form.compile.value? with
    | none => rfl
    | some t => rfl
  | ok d =>
    have hvalue : draft.compile.value? = some d := by rw [hcompile]; rfl
    unfold compile at hvalue
    rw [Check.value?_map2, Check.value?_both] at hvalue
    obtain ⟨_, _, hvalue⟩ := Option.bind_eq_some_iff.mp hvalue
    obtain ⟨⟨priority, t⟩, hparts, hd⟩ := Option.bind_eq_some_iff.mp hvalue
    obtain ⟨priority', hpriority, hparts⟩ := Option.bind_eq_some_iff.mp hparts
    obtain ⟨t', ht, hparts⟩ := Option.bind_eq_some_iff.mp hparts
    cases hparts
    rw [hpriority, ht]
    cases hd
    rfl

end Draft

end BudgetNotes
