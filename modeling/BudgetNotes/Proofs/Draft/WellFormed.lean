import BudgetNotes.Proofs.Calendar.Reading
import BudgetNotes.Proofs.Draft.Recompile

/-!
# Compiled directives are well formed

The renderer and the store take a directive as it is. So whatever texts a
draft has, a directive that it compiles to is one that can be rendered: its
numbers, days and texts are in range, its marker and priority fit its kind, and
its optional parts are there exactly when the draft asks for them
(`Directive.CompiledFrom`).

> `ensures_compile`: form by form, from limits and repetitions to templates.

Main statement: `Draft.compiledFrom_of_compile`.
-/

namespace BudgetNotes

/-! ## What a draft asks for -/

/-- How often a template repeats, if it is one that can. -/
@[simp] def Template.recurrence? : Template → Option Recurrence
  | saveBy _ _ recurrence => recurrence
  | spend _ _ _ recurrence => recurrence
  | _ => none

/-- What the compiler promises of a directive. -/
structure Directive.CompiledFrom (draft : Draft) (d : Directive) : Prop where
  kind : d.kind = draft.kind
  marker : d.marker = .goal ↔ draft.kind = .goal
  noPriority : draft.kind.hasPriority = false → d.priority = none
  /-- A priority is there exactly when its text is not blank. -/
  priority : draft.kind.hasPriority = true → d.priority.isSome = !Text.isBlank draft.priority
  /-- A priority is the whole number that its text says. -/
  priorityValue : ∀ p ∈ d.priority, ∃ x, Decimal.ofTyped draft.priority = .ok x ∧
    x.units = p.toInt * (10 ^ Decimal.maxScale : Nat)
  /-- Two decimal places are enough for every amount. -/
  amounts : ∀ m ∈ d.template.amounts, Money.Fits m.amount
  counts : ∀ n ∈ d.template.counts, 1 ≤ n.toNat ∧ n.toNat ≤ 4294967295
  dates : ∀ day ∈ d.template.dates, FourDigitYear day.year ∧
    (1 ≤ day.month ∧ day.month ≤ 12) ∧ 1 ≤ day.day ∧ day.day ≤ daysInMonth day.year day.month
  months : ∀ m ∈ d.template.months, FourDigitYear m.year ∧ 1 ≤ m.month ∧ m.month ≤ 12
  texts : ∀ s ∈ d.template.texts, s ≠ "" ∧ Text.trim s = s
  /-- A weekly limit has a start day, whether the template has the limit or is it. -/
  weekly : ∀ spec ∈ d.template.limit?, spec.period = .weekly → spec.start ≠ none
  /-- A target repeats exactly when the unit is not blank. -/
  recurrence : ∀ target ∈ draft.form.target?,
    d.template.recurrence?.isSome = !Text.isBlank target.repeatUnit
  /-- A limit that can be switched off is there exactly when it is on. -/
  limit : ∀ toggle ∈ draft.form.toggle?, d.template.limit?.isSome = toggle.enabled

/-! ## Fields -/

namespace Field

open Format

variable {text : Option String}

/-- An amount that was read has no more than two places. -/
theorem fits_of_filled {m : Money} (h : Filled (MeansNumber IsAmount) text m) :
    Money.Fits m.amount := by
  obtain ⟨_, _, x, _, rfl, hfits⟩ := h
  exact hfits

/-- A count that was read is at least one. -/
theorem one_le_of_filled {n : UInt32} (h : Filled (MeansNumber IsCount) text n) : 1 ≤ n := by
  obtain ⟨_, _, x, _, _, hone⟩ := h
  exact hone

theorem fourDigitYear_of_filled_date {d : Date}
    (h : Filled (fun s d => Date.ofIso? s = some d) text d) : FourDigitYear d.year := by
  obtain ⟨_, _, hread⟩ := h
  exact Date.fourDigitYear_of_ofIso? hread

theorem fourDigitYear_of_filled_month {m : BudgetMonth}
    (h : Filled (fun s m => BudgetMonth.ofText s = .ok m) text m) : FourDigitYear m.year := by
  obtain ⟨_, _, hread⟩ := h
  exact BudgetMonth.fourDigitYear_of_ofText hread

/-- A text that was read has something in it, and no white space around it. -/
theorem trim_eq_self_of_filled {raw s : String} (h : Filled Eq (present? raw) s) :
    s ≠ "" ∧ Text.trim s = s := by
  obtain ⟨_, hs, rfl⟩ := h
  obtain ⟨hblank, rfl⟩ := present?_eq_some_iff.mp hs
  refine ⟨fun hempty => ?_, Text.trim_idem raw⟩
  rw [(Text.isBlank_iff_trim_eq_empty raw).mpr hempty] at hblank
  cases hblank

/-- A priority that was read is the number of its text. -/
theorem units_of_filled_priority {raw : String} {p : Int32}
    (h : Filled (MeansNumber IsPriority) (present? raw) p) :
    ∃ x, Decimal.ofTyped raw = .ok x ∧ x.units = p.toInt * (10 ^ Decimal.maxScale : Nat) := by
  obtain ⟨_, hs, hmeans⟩ := h
  obtain ⟨-, rfl⟩ := present?_eq_some_iff.mp hs
  obtain ⟨x, hread, hint⟩ := meansNumber_trim.mp hmeans
  exact ⟨x, hread, Decimal.units_of_toInt? hint⟩

end Field

/-! ## Parts of a form -/

/-- A limit that was compiled is one that can be typed. -/
theorem LimitForm.ensures_compile (form : LimitForm) :
    form.compile.Ensures SpendingLimit.Typeable := by
  unfold compile
  simp only
  split
  next => exact Check.ensures_addProblem
  next hgap =>
    -- the values of the two parts are kept, since the missing start is found by looking at both
    have hperiod : form.checkPeriod.Ensures fun period => form.checkPeriod = .ok period :=
      fun _ h => h
    have hstart : form.checkStart.Ensures fun start =>
        form.checkStart = .ok start ∧ ∀ d ∈ start, FourDigitYear d.year := by
      intro start h
      have hread := Field.limitStart.reads_optionalDate.ensures form.start start h
      exact ⟨h, fun d hd => Field.fourDigitYear_of_filled_date (Field.filled_of_rel hread hd)⟩
    refine (Field.limitAmount.reads_money.ensures form.amount).map2 (hperiod.both hstart) ?_
    rintro amount ⟨period, start⟩ hamount ⟨hperiod, hstart, hyears⟩
    refine ⟨Field.fits_of_filled hamount, hyears, fun hweekly hnone => hgap ⟨?_, ?_⟩⟩
    · rw [hperiod]
      exact congrArg Check.ok hweekly
    · rw [hstart]
      exact congrArg Check.ok hnone

theorem LimitToggle.ensures_compile (toggle : LimitToggle) :
    toggle.compile.Ensures fun lim =>
      lim.isSome = toggle.enabled ∧ ∀ spec ∈ lim, spec.Typeable := by
  unfold compile
  cases toggle.enabled with
  | true =>
    rw [if_pos rfl]
    refine toggle.form.ensures_compile.map fun spec hspec => ⟨rfl, fun other hother => ?_⟩
    rw [← Option.mem_some.mp hother]
    exact hspec
  | false =>
    rw [if_neg Bool.false_ne_true]
    exact Check.ensures_ok ⟨rfl, fun spec hspec => nomatch hspec⟩

/-- A repetition is there exactly when its unit is not blank. -/
theorem TargetForm.ensures_compileRepeat (form : TargetForm) :
    form.compileRepeat.Ensures fun recurrence =>
      recurrence.isSome = (!Text.isBlank form.repeatUnit) ∧ ∀ r ∈ recurrence, 1 ≤ r.every := by
  have hcount := Field.repeatAmount.reads_optionalCount.ensures form.repeatAmount
  have hunit := (Field.repeatUnit.reads_optionalChoice RepeatUnit.chooses).ensures form.repeatUnit
  refine (hcount.both hunit).andThen ?_
  rintro ⟨every, unit⟩ ⟨hevery, hunit⟩
  have hsome := Field.isSome_of_rel hunit
  cases unit with
  | none =>
    cases every with
    | none =>
      show (Check.ok none).Ensures _
      exact Check.ensures_ok ⟨hsome, fun r hr => nomatch hr⟩
    | some n => exact Check.ensures_fail
  | some unit =>
    -- a unit by itself repeats every one
    have hevery : 1 ≤ every.getD 1 := by
      cases every with
      | none => exact UInt32.le_refl 1
      | some n => exact Field.one_le_of_filled (Field.filled_of_rel hevery rfl)
    have hrepeat : (Check.ok (some (Recurrence.mk unit (every.getD 1)))).Ensures fun recurrence =>
        recurrence.isSome = (!Text.isBlank form.repeatUnit) ∧ ∀ r ∈ recurrence, 1 ≤ r.every := by
      refine Check.ensures_ok ⟨hsome, fun r hr => ?_⟩
      rw [← Option.mem_some.mp hr]
      exact hevery
    cases every with
    | none => exact hrepeat
    | some n => exact hrepeat

theorem ensures_compileInterval (repeatAmount repeatUnit : String) :
    (compileInterval repeatAmount repeatUnit).Ensures fun period => 1 ≤ period.amount := by
  refine (Field.repeatAmount.reads_optionalCount.ensures repeatAmount).map2
    (Check.ensures_true _) ?_
  intro every unit hevery _
  cases every with
  | none => exact UInt32.le_refl 1
  | some n => exact Field.one_le_of_filled (Field.filled_of_rel hevery rfl)

/-! ## Templates -/

/-- What a form promises of its template. -/
structure Template.CompiledFrom (form : Form) (t : Template) : Prop where
  kind : t.kind = form.kind
  typeable : t.Typeable
  recurrence : ∀ target ∈ form.target?,
    t.recurrence?.isSome = !Text.isBlank target.repeatUnit
  limit : ∀ toggle ∈ form.toggle?, t.limit?.isSome = toggle.enabled

/-- A form compiles to a template of its kind, with the parts it asks for. -/
theorem Form.ensures_compile (form : Form) :
    form.compile.Ensures (Template.CompiledFrom form) := by
  unfold compile
  cases form with
  | simple monthly lim =>
    refine (Field.monthlyAmount.reads_money.ensures monthly).map2 lim.ensures_compile ?_
    intro amount spec hamount hlim
    have hfits := Field.fits_of_filled hamount
    exact ⟨rfl, (Template.typeable_iff _).mpr (by simpa using ⟨hfits, hlim.2⟩), by simp,
      by simpa using hlim.1⟩
  | percentage percent category previous =>
    refine (Check.ensures_true _).map2 (Field.category.reads_text.ensures category) ?_
    intro x s _ hs
    have htext := Field.trim_eq_self_of_filled hs
    exact ⟨rfl, (Template.typeable_iff _).mpr (by simpa using htext), by simp, by simp⟩
  | periodic amount starting repeatAmount repeatUnit lim =>
    refine (Field.amount.reads_money.ensures amount).map2
      ((Field.startingDate.reads_date.ensures starting).both
        ((ensures_compileInterval repeatAmount repeatUnit).both lim.ensures_compile)) ?_
    rintro money ⟨day, period, spec⟩ hmoney ⟨hday, hperiod, hlim⟩
    have hfits := Field.fits_of_filled hmoney
    have hyear := Field.fourDigitYear_of_filled_date hday
    exact ⟨rfl, (Template.typeable_iff _).mpr (by simpa using ⟨hfits, hyear, hperiod, hlim.2⟩),
      by simp, by simpa using hlim.1⟩
  | saveBy target =>
    refine (Field.amount.reads_money.ensures target.amount).map2
      ((Field.month.reads_budgetMonth.ensures target.month).both target.ensures_compileRepeat) ?_
    rintro money ⟨month, recurrence⟩ hmoney ⟨hmonth, hrepeat⟩
    have hfits := Field.fits_of_filled hmoney
    have hyear := Field.fourDigitYear_of_filled_month hmonth
    exact ⟨rfl, (Template.typeable_iff _).mpr (by simpa using ⟨hfits, hyear, hrepeat.2⟩),
      by simpa using hrepeat.1, by simp⟩
  | spend target =>
    refine (Field.amount.reads_money.ensures target.amount).map2
      ((Field.month.reads_budgetMonth.ensures target.month).both
        ((Field.fromMonth.reads_optionalMonth.ensures target.fromMonth).both
          target.ensures_compileRepeat)) ?_
    rintro money ⟨month, fromMonth, recurrence⟩ hmoney ⟨hmonth, hfrom, hrepeat⟩
    have hfits := Field.fits_of_filled hmoney
    have hyear := Field.fourDigitYear_of_filled_month hmonth
    have hyears : ∀ m ∈ fromMonth, FourDigitYear m.year := fun m hm =>
      Field.fourDigitYear_of_filled_month (Field.filled_of_rel hfrom hm)
    exact ⟨rfl,
      (Template.typeable_iff _).mpr (by simpa using ⟨hfits, ⟨hyear, hyears⟩, hrepeat.2⟩),
      by simpa using hrepeat.1, by simp⟩
  | schedule name adjustment full =>
    refine (Field.scheduleName.reads_text.ensures name).map2 (Check.ensures_true _) ?_
    intro s x hs _
    have htext := Field.trim_eq_self_of_filled hs
    exact ⟨rfl, (Template.typeable_iff _).mpr (by simpa using htext), by simp, by simp⟩
  | average n =>
    refine (Field.numberOfMonths.reads_count.ensures n).map fun count hcount => ?_
    have hone := Field.one_le_of_filled hcount
    exact ⟨rfl, (Template.typeable_iff _).mpr (by simpa using hone), by simp, by simp⟩
  | copy n =>
    refine (Field.lookBackMonths.reads_count.ensures n).map fun count hcount => ?_
    have hone := Field.one_le_of_filled hcount
    exact ⟨rfl, (Template.typeable_iff _).mpr (by simpa using hone), by simp, by simp⟩
  | remainder weight lim =>
    refine (Check.ensures_true _).map2 lim.ensures_compile ?_
    intro x spec _ hlim
    exact ⟨rfl, (Template.typeable_iff _).mpr (by simpa using hlim.2), by simp,
      by simpa using hlim.1⟩
  | limit form =>
    refine form.ensures_compile.map fun spec hspec => ?_
    exact ⟨rfl, (Template.typeable_iff _).mpr (by simpa using hspec), by simp, by simp⟩
  | goal amount =>
    refine (Field.amount.reads_money.ensures amount).map fun money hmoney => ?_
    have hfits := Field.fits_of_filled hmoney
    exact ⟨rfl, (Template.typeable_iff _).mpr (by simpa using hfits), by simp, by simp⟩

/-! ## Drafts -/

theorem TemplateKind.marker_eq_goal_iff (kind : TemplateKind) :
    kind.marker = .goal ↔ kind = .goal := by
  cases kind <;> decide

/-- **A directive that was compiled is well formed.** -/
theorem Draft.compiledFrom_of_compile {draft : Draft} {d : Directive}
    (h : draft.compile = .ok d) : d.CompiledFrom draft := by
  have hpriority : (checkPriority draft.kind draft.priority).Ensures fun priority =>
      checkPriority draft.kind draft.priority = .ok priority := fun _ h => h
  refine (Check.ensures_true (checkLabel draft.label)).map2
    (hpriority.both draft.form.ensures_compile) ?_ d h
  rintro _ ⟨priority, t⟩ _ ⟨hpriority, ht⟩
  have hkind : t.kind = draft.kind := ht.kind
  have hvalue : draft.kind.hasPriority = true →
      priority.isSome = (!Text.isBlank draft.priority) ∧
        ∀ p ∈ priority, ∃ x, Decimal.ofTyped draft.priority = .ok x ∧
          x.units = p.toInt * (10 ^ Decimal.maxScale : Nat) := by
    intro htakes
    unfold checkPriority at hpriority
    rw [if_pos htakes] at hpriority
    have hread := Field.priority.reads_optionalPriority.ensures draft.priority priority hpriority
    exact ⟨Field.isSome_of_rel hread,
      fun p hp => Field.units_of_filled_priority (Field.filled_of_rel hread hp)⟩
  exact {
    kind := hkind
    marker := by
      show t.kind.marker = .goal ↔ _
      rw [hkind, TemplateKind.marker_eq_goal_iff]
    noPriority := fun hnone =>
      Directive.ofTemplate_priority_eq_none priority (by rw [hkind, hnone])
    priority := fun htakes => by
      show (if t.kind.hasPriority then priority else none).isSome = _
      rw [hkind, if_pos htakes]
      exact (hvalue htakes).1
    priorityValue := fun p hp => by
      have hp : p ∈ if t.kind.hasPriority then priority else none := hp
      rw [hkind] at hp
      split at hp
      next htakes => exact (hvalue htakes).2 p hp
      next => cases hp
    amounts := ht.typeable.fits
    counts := fun n hn => by
      have hlt := n.toNat_lt
      exact ⟨UInt32.le_iff_toNat_le.mp (ht.typeable.one_le n hn), by omega⟩
    dates := fun day hday =>
      ⟨ht.typeable.dates day hday, day.month_mem, day.day_pos, day.day_le⟩
    months := fun m hm => ⟨ht.typeable.months m hm, m.month_mem⟩
    texts := ht.typeable.texts
    weekly := ht.typeable.weekly
    recurrence := ht.recurrence
    limit := ht.limit }

/-- A weekly limit with its start, and a priority that is written with an exponent. -/
theorem Draft.compiledFrom_of_weekly :
    let limit : LimitToggle := ⟨true, ⟨"120.50", "Weekly", true, " 2025-03-03 "⟩⟩
    let draft : Draft := ⟨"a", none, "Food", " 0.3e1 ", .simple "50.00" limit⟩
    let d := Directive.ofTemplate (.simple (.ofCents 5000) (some ⟨.ofCents 12050, true, .weekly,
      Date.ofNumbers? 2025 3 3⟩)) (some 3)
    draft.compile = .ok d ∧ d.CompiledFrom draft := by
  intro limit draft d
  have hcompile : draft.compile = .ok d := by decide +kernel
  exact ⟨hcompile, compiledFrom_of_compile hcompile⟩

end BudgetNotes
