import BudgetNotes.Proofs.Draft.Exactness
import BudgetNotes.Proofs.Draft.Requirements

/-!
# Which problems are reported

A draft is told what is wrong with its label, then with each field that its kind
asks for, in order, whatever else is wrong. Two fields are looked at together in
two places only, a weekly limit and a repetition, and what is wrong there is said
last.

> `Form.problems_compile`: the problems of a form, requirement by requirement.

Main statements: `Draft.problems_compile` and `Draft.blankLineInLabel_mem_iff`.
-/

namespace BudgetNotes

open Check Requirement

/-! ## Fields that do not fit together -/

/-- A weekly limit needs a start day. -/
def LimitForm.mismatch? (form : LimitForm) : Option Problem :=
  if LimitPeriod.ofText form.period = .ok .weekly ∧ Text.isBlank form.start then
    some .weeklyLimitWithoutStart
  else none

/-- Whether a text says a count, an integer from 1 up and below 2^32. -/
def saysCount (s : String) : Bool :=
  match Decimal.ofTyped s with
  | .ok x => x.toInt?.any fun n => 1 ≤ n ∧ n ≤ 4294967295
  | .error _ => false

/-- A count of repetitions needs a unit. -/
def TargetForm.mismatch? (form : TargetForm) : Option Problem :=
  if saysCount form.repeatAmount ∧ Text.isBlank form.repeatUnit then some .repeatWithoutUnit
  else none

/-- What is wrong with two fields together. No form has a target and a limit. -/
@[simp] def Form.mismatches (form : Form) : List Problem :=
  (form.target?.bind TargetForm.mismatch?).toList ++
    (form.activeLimit?.bind LimitForm.mismatch?).toList

/-! ## Limits -/

/-- Which word a text is does not depend on the white space around it. -/
theorem LimitPeriod.ofText_trim (s : String) : ofText (Text.trim s) = ofText s := by
  unfold ofText chooseByWord
  rw [Text.trim_idem]

namespace LimitForm

theorem checkPeriod_eq_weekly_iff (form : LimitForm) :
    form.checkPeriod = .ok .weekly ↔ LimitPeriod.ofText form.period = .ok .weekly := by
  unfold checkPeriod
  rw [map_eq_ok_iff, ← LimitPeriod.ofText_trim]
  simp only [(Field.limitPeriod.reads_optionalChoice LimitPeriod.chooses).ok_iff]
  cases hpresent : Field.present? form.period with
  | none =>
    -- a blank window is monthly, and a blank text is no word
    rw [(Text.isBlank_iff_trim_eq_empty form.period).mp (Field.present?_eq_none_iff.mp hpresent)]
    refine iff_of_false ?_ (by decide)
    rintro ⟨v, hv, hweekly⟩
    cases hv
    cases hweekly
  | some s =>
    obtain ⟨-, rfl⟩ := Field.present?_eq_some_iff.mp hpresent
    constructor
    · rintro ⟨v, hv, hweekly⟩
      cases hv with
      | some hread =>
        rw [← show _ = LimitPeriod.weekly from hweekly]
        exact hread
    · intro hread
      exact ⟨some .weekly, .some hread, rfl⟩

theorem checkStart_eq_none_iff (form : LimitForm) :
    form.checkStart = .ok none ↔ Text.isBlank form.start = true :=
  Field.limitStart.reads_optionalDate.eq_none_iff

/-- The problems of a limit, requirement by requirement. -/
theorem problems_compile (form : LimitForm) :
    form.compile.problems = judge requirements form.text ++ form.mismatch?.toList := by
  have hperiod : form.checkPeriod.problems =
      ((may .limitPeriod (.choice LimitPeriod.choices)).problem? form.period).toList :=
    (problems_map _ _).trans
      ((Field.limitPeriod.reads_optionalChoice LimitPeriod.chooses).problems form.period)
  have hstart : form.checkStart.problems = ((may .limitStart .date).problem? form.start).toList :=
    Field.limitStart.reads_optionalDate.problems form.start
  have hparts : ∀ put : Money → LimitPeriod × Option Date → SpendingLimit,
      (Check.map2 put (Field.limitAmount.money form.amount)
        (.both form.checkPeriod form.checkStart)).problems = judge requirements form.text := by
    intro put
    rw [problems_map2, problems_both, (Field.reads_money _).problems, hperiod, hstart]
    simp only [requirements, judge_cons, judge_nil, List.append_nil]
    rfl
  have hgap : form.checkPeriod = .ok .weekly ∧ form.checkStart = .ok none ↔
      LimitPeriod.ofText form.period = .ok .weekly ∧ Text.isBlank form.start = true :=
    and_congr form.checkPeriod_eq_weekly_iff form.checkStart_eq_none_iff
  unfold compile mismatch?
  by_cases h : LimitPeriod.ofText form.period = .ok .weekly ∧ Text.isBlank form.start = true
  · rw [if_pos h]
    simp only [if_pos (hgap.mpr h)]
    rw [problems_addProblem, hparts]
    rfl
  · rw [if_neg h]
    simp only [if_neg (mt hgap.mp h)]
    rw [hparts]
    exact (List.append_nil _).symm

end LimitForm

/-- A limit that is switched off has no problems. -/
theorem LimitToggle.problems_compile (toggle : LimitToggle) :
    toggle.compile.problems =
      if toggle.enabled then
        judge LimitForm.requirements toggle.form.text ++ toggle.form.mismatch?.toList
      else [] := by
  unfold compile
  split
  next => rw [problems_map, LimitForm.problems_compile]
  next => rfl

/-! ## Repetitions -/

namespace TargetForm

/-- The counts that are read are those that a text says. -/
theorem exists_optionalCount_iff_saysCount (raw : String) :
    (∃ c, Field.repeatAmount.optionalCount raw = .ok (some c)) ↔ saysCount raw = true := by
  cases hblank : Text.isBlank raw with
  | true =>
    have herror : Decimal.ofTyped raw = Decimal.ofTyped "" := by
      rw [← Decimal.ofTyped_trim, (Text.isBlank_iff_trim_eq_empty raw).mp hblank]
    unfold saysCount
    rw [Field.repeatAmount.reads_optionalCount.eq_none_iff.mpr hblank, herror]
    refine iff_of_false ?_ (by decide)
    rintro ⟨c, hc⟩
    cases hc
  | false =>
    simp only [Field.repeatAmount.reads_optionalCount.some_number_iff hblank]
    unfold saysCount Format.MeansNumber
    cases Decimal.ofTyped raw with
    | error e =>
      refine iff_of_false ?_ Bool.false_ne_true
      rintro ⟨c, x, ⟨⟩, -⟩
    | ok x =>
      simp only [Except.ok.injEq, exists_eq_left', Format.exists_isCount_iff, Option.any_eq_true,
        decide_eq_true_eq, Decimal.toInt?_eq_some_iff]
      rfl

/-- The problems of a repetition, requirement by requirement. -/
theorem problems_compileRepeat (form : TargetForm) :
    form.compileRepeat.problems =
      judge repeatRequirements form.text ++ form.mismatch?.toList := by
  have hparts : (Check.both (Field.repeatAmount.optionalCount form.repeatAmount)
      (Field.repeatUnit.optionalChoice RepeatUnit.ofText RepeatUnit.choices
        form.repeatUnit)).problems = judge repeatRequirements form.text := by
    rw [problems_both, (Field.reads_optionalCount _).problems,
      (Field.reads_optionalChoice _ RepeatUnit.chooses).problems]
    simp only [repeatRequirements, judge_cons, judge_nil, List.append_nil]
    rfl
  have hcount := exists_optionalCount_iff_saysCount form.repeatAmount
  have hunit : Field.repeatUnit.optionalChoice RepeatUnit.ofText RepeatUnit.choices
      form.repeatUnit = .ok none ↔ Text.isBlank form.repeatUnit = true :=
    (Field.repeatUnit.reads_optionalChoice RepeatUnit.chooses).eq_none_iff
  rw [← hparts]
  unfold compileRepeat mismatch?
  generalize Field.repeatAmount.optionalCount form.repeatAmount = every at hcount ⊢
  generalize Field.repeatUnit.optionalChoice RepeatUnit.ofText RepeatUnit.choices form.repeatUnit =
    unit at hunit ⊢
  by_cases h : saysCount form.repeatAmount = true ∧ Text.isBlank form.repeatUnit = true
  · obtain ⟨c, rfl⟩ := hcount.mpr h.1
    obtain rfl := hunit.mpr h.2
    rw [if_pos h]
    rfl
  · rw [if_neg h]
    show _ = _ ++ []
    rw [List.append_nil]
    cases every with
    | failed p ps => cases unit <;> rfl
    | ok every =>
      cases unit with
      | failed p ps => rfl
      | ok unit =>
        cases unit with
        | some unit => cases every <;> rfl
        | none =>
          cases every with
          | none => rfl
          | some c => exact absurd ⟨hcount.mp ⟨c, rfl⟩, hunit.mp rfl⟩ h

end TargetForm

/-! ## Forms -/

theorem problems_compileInterval (repeatAmount repeatUnit : String) :
    (compileInterval repeatAmount repeatUnit).problems =
      ((may .repeatAmount .count).problem? repeatAmount).toList ++
        ((may .repeatUnit (.choice PeriodUnit.choices)).problem? repeatUnit).toList := by
  unfold compileInterval
  rw [problems_map2, (Field.reads_optionalCount _).problems,
    (Field.reads_optionalChoice _ PeriodUnit.chooses).problems]

/-- The problems of a form, requirement by requirement. -/
theorem Form.problems_compile (form : Form) :
    form.compile.problems =
      judge (form.kind.formRequirements form.activeLimit?.isSome) form.text ++
        form.mismatches := by
  unfold compile
  cases form with
  | simple monthly lim =>
    simp only
    rw [problems_map2, (Field.reads_money _).problems, lim.problems_compile]
    cases hlim : lim.enabled with
    | true => simp [kind, LimitToggle.active?, hlim]
    | false => simp [kind, LimitToggle.active?, hlim]
  | percentage percent category previous =>
    simp only
    rw [problems_map2, (Field.reads_decimal _).problems, (Field.reads_text _).problems]
    simp [kind]
  | periodic amount starting repeatAmount repeatUnit lim =>
    simp only
    rw [problems_map2, problems_both, problems_both, (Field.reads_money _).problems,
      (Field.reads_date _).problems, problems_compileInterval, lim.problems_compile]
    cases hlim : lim.enabled with
    | true => simp [kind, LimitToggle.active?, hlim]
    | false => simp [kind, LimitToggle.active?, hlim]
  | saveBy target =>
    simp only [TargetForm.compileSaveBy]
    rw [problems_map2, problems_both, (Field.reads_money _).problems,
      (Field.reads_budgetMonth _).problems, target.problems_compileRepeat]
    simp [kind]
  | spend target =>
    simp only [TargetForm.compileSpend]
    rw [problems_map2, problems_both, problems_both, (Field.reads_money _).problems,
      (Field.reads_budgetMonth _).problems, (Field.reads_optionalMonth _).problems,
      target.problems_compileRepeat]
    simp [kind]
  | schedule name adjustment full =>
    simp only
    rw [problems_map2, (Field.reads_text _).problems, (Field.reads_optionalDecimal _).problems]
    simp [kind]
  | average n =>
    simp only
    rw [problems_map, (Field.reads_count _).problems]
    simp [kind]
  | copy n =>
    simp only
    rw [problems_map, (Field.reads_count _).problems]
    simp [kind]
  | remainder weight lim =>
    simp only
    rw [problems_map2, (Field.reads_optionalDecimal _).problems, lim.problems_compile]
    cases hlim : lim.enabled with
    | true => simp [kind, LimitToggle.active?, hlim]
    | false => simp [kind, LimitToggle.active?, hlim]
  | limit form =>
    simp only
    rw [problems_map, form.problems_compile]
    simp [kind]
  | goal amount =>
    simp only
    rw [problems_map, (Field.reads_money _).problems]
    simp [kind]

/-! ## Problems without a field -/

/-- A problem of a field names one that is asked for. -/
theorem Requirement.field?_of_mem_judge {rs : List Requirement} {text : Field → String}
    {p : Problem} (h : p ∈ judge rs text) : ∃ r ∈ rs, p.field? = some r.field := by
  obtain ⟨r, hr, hp⟩ := List.mem_filterMap.mp h
  exact ⟨r, hr, field?_of_problem? hp⟩

theorem LimitForm.mismatch?_eq_some_iff {form : LimitForm} {p : Problem} :
    form.mismatch? = some p ↔ p = .weeklyLimitWithoutStart ∧
      LimitPeriod.ofText form.period = .ok .weekly ∧ Text.isBlank form.start = true := by
  unfold mismatch?
  rw [Option.ite_none_right_eq_some, Option.some.injEq, and_comm, eq_comm]

theorem TargetForm.mismatch?_eq_some_iff {form : TargetForm} {p : Problem} :
    form.mismatch? = some p ↔ p = .repeatWithoutUnit ∧
      saysCount form.repeatAmount = true ∧ Text.isBlank form.repeatUnit = true := by
  unfold mismatch?
  rw [Option.ite_none_right_eq_some, Option.some.injEq, and_comm, eq_comm]

/-- Two fields that do not fit together are those of a repetition or of a weekly limit. -/
theorem Form.mem_mismatches_iff {form : Form} {p : Problem} :
    p ∈ form.mismatches ↔
      (p = .repeatWithoutUnit ∧ ∃ target ∈ form.target?,
        saysCount target.repeatAmount = true ∧ Text.isBlank target.repeatUnit = true) ∨
      (p = .weeklyLimitWithoutStart ∧ ∃ limit ∈ form.activeLimit?,
        LimitPeriod.ofText limit.period = .ok .weekly ∧ Text.isBlank limit.start = true) := by
  unfold mismatches
  rw [List.mem_append, Option.mem_toList, Option.mem_toList, Option.bind_eq_some_iff,
    Option.bind_eq_some_iff]
  refine or_congr ⟨?_, ?_⟩ ⟨?_, ?_⟩
  · rintro ⟨target, htarget, hp⟩
    obtain ⟨hp, hgap⟩ := TargetForm.mismatch?_eq_some_iff.mp hp
    exact ⟨hp, target, htarget, hgap⟩
  · rintro ⟨hp, target, htarget, hgap⟩
    exact ⟨target, htarget, TargetForm.mismatch?_eq_some_iff.mpr ⟨hp, hgap⟩⟩
  · rintro ⟨limit, hlimit, hp⟩
    obtain ⟨hp, hgap⟩ := LimitForm.mismatch?_eq_some_iff.mp hp
    exact ⟨hp, limit, hlimit, hgap⟩
  · rintro ⟨hp, limit, hlimit, hgap⟩
    exact ⟨limit, hlimit, LimitForm.mismatch?_eq_some_iff.mpr ⟨hp, hgap⟩⟩

/-! ## Drafts -/

namespace Draft

/-- What is wrong with a label. -/
def labelProblem? (label : String) : Option Problem :=
  Problem.unless .blankLineInLabel (!labelHasGap label)

theorem problems_checkLabel (label : String) :
    (checkLabel label).problems = (labelProblem? label).toList := by
  unfold checkLabel labelProblem?
  cases labelHasGap label with
  | true => rfl
  | false => rfl

theorem problems_checkPriority (draft : Draft) :
    (checkPriority draft.kind draft.priority).problems =
      judge (if draft.kind.hasPriority then [.may .priority .priority] else []) draft.text := by
  unfold checkPriority
  split
  next =>
    rw [(Field.reads_optionalPriority _).problems, judge_cons, judge_nil, List.append_nil,
      field_may, text_priority]
  next => rfl

/-- The problems of a draft, requirement by requirement. -/
theorem problems_compile (draft : Draft) :
    draft.compile.problems =
      (labelProblem? draft.label).toList ++ judge draft.requirements draft.text ++
        draft.form.mismatches := by
  have hform : judge (draft.kind.formRequirements draft.form.activeLimit?.isSome) draft.form.text =
      judge (draft.kind.formRequirements draft.form.activeLimit?.isSome) draft.text :=
    judge_congr fun r hr =>
      (draft.text_of_ne_priority (draft.kind.field_ne_priority _ r hr)).symm
  unfold compile requirements TemplateKind.requirements
  rw [problems_map2, problems_both, problems_checkLabel, problems_checkPriority,
    Form.problems_compile, judge_append]
  show _ ++ (_ ++ (judge (draft.kind.formRequirements _) _ ++ _)) = _
  rw [hform]
  simp only [List.append_assoc]

theorem labelProblem?_eq_some_iff {label : String} {p : Problem} :
    labelProblem? label = some p ↔ p = .blankLineInLabel ∧ labelHasGap label = true := by
  unfold labelProblem? Problem.unless
  cases labelHasGap label with
  | true => simp [eq_comm]
  | false => simp

/-- A problem that names no field is one of the label or of two fields. -/
theorem mem_problems_iff_of_field? (draft : Draft) {p : Problem} (h : p.field? = none) :
    p ∈ draft.compile.problems ↔
      (p = .blankLineInLabel ∧ labelHasGap draft.label = true) ∨ p ∈ draft.form.mismatches := by
  have hfields : p ∉ judge draft.requirements draft.text := by
    intro hp
    obtain ⟨r, _, hr⟩ := field?_of_mem_judge hp
    rw [h] at hr
    cases hr
  rw [problems_compile, List.mem_append, List.mem_append, or_iff_left hfields, Option.mem_toList,
    labelProblem?_eq_some_iff]

/-- A draft is told of a blank line exactly when its label has one that would split it. -/
theorem blankLineInLabel_mem_iff (draft : Draft) :
    .blankLineInLabel ∈ draft.compile.problems ↔ labelHasGap draft.label = true := by
  rw [draft.mem_problems_iff_of_field? rfl, Form.mem_mismatches_iff]
  simp

end Draft

namespace Compilation

/-- A problem of a compilation is one of a draft. -/
theorem exists_of_mem_fromPosition {position : Nat} {drafts : List Draft} {p : LocatedProblem}
    (h : p ∈ (fromPosition position drafts).problems) :
    ∃ draft ∈ drafts, p.problem ∈ draft.compile.problems := by
  induction drafts generalizing position with
  | nil => cases h
  | cons draft drafts ih =>
    rcases List.mem_append.mp h with h | h
    · obtain ⟨q, hq, rfl⟩ := List.mem_map.mp h
      exact ⟨draft, List.mem_cons_self .., hq⟩
    · obtain ⟨other, hmem, hq⟩ := ih h
      exact ⟨other, List.mem_cons_of_mem _ hmem, hq⟩

end Compilation

end BudgetNotes
