import BudgetNotes.Draft.Compile
import BudgetNotes.Proofs.Text.Lines

/-!
# What is asked of the fields

A kind asks for its fields in an order of its own, and says of each of them in
which format it has to be filled in. What is wrong with the fields of a draft is
then said field by field, in that order, from the text of each alone
(`Requirement.judge`).

Main statements: `Requirement.judge_congr` (only the texts of the fields that
are asked for count) and `TemplateKind.nodup_requirements` (no field is asked
for twice).
-/

namespace BudgetNotes

/-! ## Problems of fields -/

/-- The field that a problem names. -/
def Problem.field? : Problem → Option Field
  | required f => some f
  | notANumber f => some f
  | tooPrecise f => some f
  | notAWholeNumber f => some f
  | notPositive f => some f
  | invalidDate f => some f
  | invalidMonth f => some f
  | invalidChoice f _ => some f
  | repeatWithoutUnit => none
  | weeklyLimitWithoutStart => none
  | blankLineInLabel => none

/-- The problem, unless all is fine. -/
def Problem.unless (p : Problem) (fine : Bool) : Option Problem := if fine then none else some p

theorem Problem.eq_of_unless {p q : Problem} {fine : Bool} (h : p.unless fine = some q) :
    p = q := by
  unfold Problem.unless at h
  split at h
  next => cases h
  next => exact Option.some.inj h

/-! ## Formats -/

/-- How a text is read. -/
inductive Format where
  | decimal
  | amount
  | priority
  | count
  | text
  | date
  | month
  | choice (allowed : List String)
deriving DecidableEq

namespace Format

/-- What is wrong with a number, given what is wrong with the decimal that is read. -/
def numberProblem? (field : Field) (judge : Decimal → Option Problem) (s : String) :
    Option Problem :=
  match Decimal.ofTyped s with
  | .ok x => judge x
  | .error _ => some (.notANumber field)

/-- What is wrong with a decimal that has to be an integer from `low` to `high`. -/
def wholeProblem? (field : Field) (low high : Int) (x : Decimal) : Option Problem :=
  Problem.unless (.notAWholeNumber field) (x.toInt?.any fun n => low ≤ n ∧ n ≤ high)

/-- What is wrong with a decimal that has to be a count. -/
def countProblem? (field : Field) (x : Decimal) : Option Problem :=
  if x.toInt? = some 0 then some (.notPositive field) else wholeProblem? field 1 4294967295 x

/-- What is wrong with a text that is not blank. -/
def problem? (field : Field) (s : String) : Format → Option Problem
  | decimal => numberProblem? field (fun _ => none) s
  | amount => numberProblem? field (fun x => Problem.unless (.tooPrecise field) (Money.Fits x)) s
  | priority => numberProblem? field (wholeProblem? field (-2147483648) 2147483647) s
  | count => numberProblem? field (countProblem? field) s
  | text => none
  | date => Problem.unless (.invalidDate field) (Date.ofIso? s).isSome
  | month => Problem.unless (.invalidMonth field) (BudgetMonth.ofText s).isOk
  | choice allowed =>
    Problem.unless (.invalidChoice field allowed) (Text.lowercase (Text.trim s) ∈ allowed)

theorem field?_of_numberProblem? {field : Field} {judge : Decimal → Option Problem} {s : String}
    {p : Problem} (hjudge : ∀ x q, judge x = some q → q.field? = some field)
    (h : numberProblem? field judge s = some p) : p.field? = some field := by
  unfold numberProblem? at h
  split at h
  next x _ => exact hjudge x p h
  next => rw [← Option.some.inj h, Problem.field?]

/-- A text is told only what names its field. -/
theorem field?_of_problem? {field : Field} {s : String} {format : Format} {p : Problem}
    (h : format.problem? field s = some p) : p.field? = some field := by
  have hwhole : ∀ low high x q, wholeProblem? field low high x = some q →
      q.field? = some field := by
    intro low high x q hq
    rw [← Problem.eq_of_unless hq, Problem.field?]
  cases format with
  | decimal => exact field?_of_numberProblem? (fun x q (hq : none = some q) => nomatch hq) h
  | amount =>
    refine field?_of_numberProblem? (fun x q hq => ?_) h
    rw [← Problem.eq_of_unless hq, Problem.field?]
  | priority => exact field?_of_numberProblem? (hwhole _ _) h
  | count =>
    refine field?_of_numberProblem? (fun x q hq => ?_) h
    unfold countProblem? at hq
    split at hq
    next => rw [← Option.some.inj hq, Problem.field?]
    next => exact hwhole _ _ x q hq
  | text => exact nomatch h
  | date => rw [← Problem.eq_of_unless h, Problem.field?]
  | month => rw [← Problem.eq_of_unless h, Problem.field?]
  | choice allowed => rw [← Problem.eq_of_unless h, Problem.field?]

end Format

/-! ## Requirements -/

/-- What is asked of a field. -/
structure Requirement where
  field : Field
  /-- Whether the field must not be blank. -/
  needed : Bool
  format : Format
deriving DecidableEq

namespace Requirement

/-- A field that has to be filled in. -/
def must (field : Field) (format : Format) : Requirement := ⟨field, true, format⟩

/-- A field that may be left out. -/
def may (field : Field) (format : Format) : Requirement := ⟨field, false, format⟩

@[simp] theorem field_must (field : Field) (format : Format) :
    (must field format).field = field := rfl

@[simp] theorem field_may (field : Field) (format : Format) : (may field format).field = field :=
  rfl

/-- What is wrong with the text of a field. -/
def problem? (r : Requirement) (raw : String) : Option Problem :=
  if Text.isBlank raw then Problem.unless (.required r.field) (!r.needed)
  else r.format.problem? r.field (Text.trim raw)

theorem field?_of_problem? {r : Requirement} {raw : String} {p : Problem}
    (h : r.problem? raw = some p) : p.field? = some r.field := by
  unfold problem? at h
  split at h
  next => rw [← Problem.eq_of_unless h, Problem.field?]
  next => exact Format.field?_of_problem? h

theorem problem?_trim (r : Requirement) (raw : String) :
    r.problem? (Text.trim raw) = r.problem? raw := by
  unfold problem?
  rw [Text.isBlank_trim, Text.trim_idem]

/-- What is wrong with the texts of some fields, in order. -/
def judge (requirements : List Requirement) (text : Field → String) : List Problem :=
  requirements.filterMap fun r => r.problem? (text r.field)

@[simp] theorem judge_nil (text : Field → String) : judge [] text = [] := rfl

@[simp] theorem judge_cons (r : Requirement) (rs : List Requirement) (text : Field → String) :
    judge (r :: rs) text = (r.problem? (text r.field)).toList ++ judge rs text := by
  unfold judge
  cases h : r.problem? (text r.field) with
  | none => exact List.filterMap_cons_none h
  | some p => exact List.filterMap_cons_some h

@[simp] theorem judge_append (rs ss : List Requirement) (text : Field → String) :
    judge (rs ++ ss) text = judge rs text ++ judge ss text := by
  unfold judge
  rw [List.filterMap_append]

theorem judge_congr {rs : List Requirement} {text text' : Field → String}
    (h : ∀ r ∈ rs, text r.field = text' r.field) : judge rs text = judge rs text' := by
  refine List.filterMap_congr fun r hr => ?_
  rw [h r hr]

end Requirement

/-! ## Forms -/

/-- What a limit asks for. -/
@[simp] def LimitForm.requirements : List Requirement :=
  [.must .limitAmount .amount, .may .limitPeriod (.choice LimitPeriod.choices),
    .may .limitStart .date]

/-- What a repetition asks for. -/
@[simp] def TargetForm.repeatRequirements : List Requirement :=
  [.may .repeatAmount .count, .may .repeatUnit (.choice RepeatUnit.choices)]

namespace TemplateKind

/-- What a kind asks for of its own. -/
@[simp] def ownRequirements : TemplateKind → List Requirement
  | simple => [.must .monthlyAmount .amount]
  | percentage => [.must .percent .decimal, .must .category .text]
  | periodic =>
    [.must .amount .amount, .must .startingDate .date, .may .repeatAmount .count,
      .may .repeatUnit (.choice PeriodUnit.choices)]
  | saveBy => [.must .amount .amount, .must .month .month] ++ TargetForm.repeatRequirements
  | spend =>
    [.must .amount .amount, .must .month .month, .may .fromMonth .month] ++
      TargetForm.repeatRequirements
  | schedule => [.must .scheduleName .text, .may .adjustment .decimal]
  | average => [.must .numberOfMonths .count]
  | copy => [.must .lookBackMonths .count]
  | remainder => [.may .weight .decimal]
  | limit => []
  | goal => [.must .amount .amount]

/-- What the form of a kind asks for, with a limit or without. -/
@[simp] def formRequirements (kind : TemplateKind) (limited : Bool) : List Requirement :=
  kind.ownRequirements ++ if limited then LimitForm.requirements else []

/-- All that a kind asks for, in order. -/
def requirements (kind : TemplateKind) (limited : Bool) : List Requirement :=
  (if kind.hasPriority then [.may .priority .priority] else []) ++ kind.formRequirements limited

/-- No field is asked for twice. -/
theorem nodup_requirements (kind : TemplateKind) (limited : Bool) :
    ((kind.requirements limited).map Requirement.field).Nodup := by
  cases kind <;> cases limited <;> decide

/-- A form has no priority. -/
theorem field_ne_priority (kind : TemplateKind) (limited : Bool) :
    ∀ r ∈ kind.formRequirements limited, r.field ≠ .priority := by
  cases kind <;> cases limited <;> decide

end TemplateKind

namespace LimitForm

@[simp] def text (form : LimitForm) : Field → String
  | .limitAmount => form.amount
  | .limitPeriod => form.period
  | .limitStart => form.start
  | _ => ""

end LimitForm

namespace TargetForm

@[simp] def text (form : TargetForm) : Field → String
  | .amount => form.amount
  | .month => form.month
  | .fromMonth => form.fromMonth
  | .repeatAmount => form.repeatAmount
  | .repeatUnit => form.repeatUnit
  | _ => ""

end TargetForm

/-- The limit of a form that can be switched off. -/
@[simp] def Form.toggle? : Form → Option LimitToggle
  | simple _ lim => some lim
  | periodic _ _ _ _ lim => some lim
  | remainder _ lim => some lim
  | _ => none

/-- The target of a form that saves for a month. -/
@[simp] def Form.target? : Form → Option TargetForm
  | saveBy target => some target
  | spend target => some target
  | _ => none

/-- The limit, if it is switched on. -/
def LimitToggle.active? (toggle : LimitToggle) : Option LimitForm :=
  if toggle.enabled then some toggle.form else none

namespace Form

/-- The limit that is in use. A form of a limit is, others have one that is switched on. -/
@[simp] def activeLimit? : Form → Option LimitForm
  | limit form => some form
  | form => form.toggle?.bind LimitToggle.active?

/-- The text of a field, whether it is in use or not. -/
@[simp] def text : Form → Field → String
  | simple monthly _, .monthlyAmount => monthly
  | simple _ lim, field => lim.form.text field
  | percentage percent _ _, .percent => percent
  | percentage _ category _, .category => category
  | periodic amount _ _ _ _, .amount => amount
  | periodic _ starting _ _ _, .startingDate => starting
  | periodic _ _ repeatAmount _ _, .repeatAmount => repeatAmount
  | periodic _ _ _ repeatUnit _, .repeatUnit => repeatUnit
  | periodic _ _ _ _ lim, field => lim.form.text field
  | saveBy target, field => target.text field
  | spend target, field => target.text field
  | schedule name _ _, .scheduleName => name
  | schedule _ adjustment _, .adjustment => adjustment
  | average n, .numberOfMonths => n
  | copy n, .lookBackMonths => n
  | remainder weight _, .weight => weight
  | remainder _ lim, field => lim.form.text field
  | limit form, field => form.text field
  | goal amount, .amount => amount
  | _, _ => ""

end Form

namespace Draft

/-- What is asked for in a draft, which depends on its kind and on whether a limit is in use. -/
def requirements (draft : Draft) : List Requirement :=
  draft.kind.requirements draft.form.activeLimit?.isSome

/-- The text of a field, whether it is in use or not. -/
def text (draft : Draft) (field : Field) : String :=
  if field = .priority then draft.priority else draft.form.text field

theorem text_priority (draft : Draft) : draft.text .priority = draft.priority := if_pos rfl

theorem text_of_ne_priority (draft : Draft) {field : Field} (h : field ≠ .priority) :
    draft.text field = draft.form.text field := if_neg h

end Draft

end BudgetNotes
