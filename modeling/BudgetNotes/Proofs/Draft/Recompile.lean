import BudgetNotes.Proofs.Draft.Fields

/-!
# Which directives survive editing

A directive is turned into the texts of a draft, and compiling the draft
unchanged should give it back. It does for exactly those directives that could
have been typed (`Directive.Typeable`): stored directives may have amounts
below a cent, counts of zero, years of five digits and so on, and a draft has
no way to say these.

> `gives_compile`: part by part, from the fields of a limit to a whole form.

Main statement: `compile_ofDirective_iff`.
-/

namespace BudgetNotes

/-! ## What can be typed -/

/-- The limit of a template, whether it has one or is one. -/
@[simp] def Template.limit? : Template → Option SpendingLimit
  | simple _ lim => lim
  | periodic _ _ _ lim => lim
  | remainder _ lim => lim
  | limit spec => some spec
  | _ => none

/-- The amounts of a template, the one of its limit aside. -/
@[simp] def Template.ownAmounts : Template → List Money
  | simple monthly _ => [monthly]
  | periodic amount .. => [amount]
  | saveBy amount .. => [amount]
  | spend amount .. => [amount]
  | goal amount => [amount]
  | _ => []

/-- The dates of a template, the one of its limit aside. -/
@[simp] def Template.ownDates : Template → List Date
  | periodic _ _ starting _ => [starting]
  | _ => []

/-- All amounts of a template. -/
def Template.amounts (t : Template) : List Money :=
  t.ownAmounts ++ t.limit?.toList.map SpendingLimit.amount

/-- All dates of a template. -/
def Template.dates (t : Template) : List Date :=
  t.ownDates ++ t.limit?.toList.filterMap SpendingLimit.start

/-- The counts of a template: of months, of units in an interval, of units until it repeats. -/
@[simp] def Template.counts : Template → List UInt32
  | periodic _ period _ _ => [period.amount]
  | saveBy _ _ recurrence => recurrence.toList.map Recurrence.every
  | spend _ _ _ recurrence => recurrence.toList.map Recurrence.every
  | average numMonths => [numMonths]
  | copy lookBack => [lookBack]
  | _ => []

/-- The months of a template. -/
@[simp] def Template.months : Template → List BudgetMonth
  | saveBy _ month _ => [month]
  | spend _ month fromMonth _ => month :: fromMonth.toList
  | _ => []

/-- The free texts of a template. -/
@[simp] def Template.texts : Template → List String
  | percentage _ category _ => [category]
  | schedule name _ _ => [name]
  | _ => []

/-- A template that a user can type. -/
structure Template.Typeable (t : Template) : Prop where
  fits : ∀ m ∈ t.amounts, Money.Fits m.amount
  dates : ∀ d ∈ t.dates, FourDigitYear d.year
  months : ∀ m ∈ t.months, FourDigitYear m.year
  one_le : ∀ n ∈ t.counts, 1 ≤ n
  texts : ∀ s ∈ t.texts, s ≠ "" ∧ Text.trim s = s
  weekly : ∀ spec ∈ t.limit?, spec.period = .weekly → spec.start ≠ none

/-- A directive that a user can type. -/
structure Directive.Typeable (d : Directive) : Prop where
  marker : d.marker = d.kind.marker
  priority : d.kind.hasPriority = false → d.priority = none
  template : d.template.Typeable

/-- A limit that a user can type. -/
structure SpendingLimit.Typeable (spec : SpendingLimit) : Prop where
  fits : Money.Fits spec.amount.amount
  start : ∀ d ∈ spec.start, FourDigitYear d.year
  weekly : spec.period = .weekly → spec.start ≠ none

/-- What a template needs, its limit by itself. -/
theorem Template.typeable_iff (t : Template) :
    t.Typeable ↔ (∀ m ∈ t.ownAmounts, Money.Fits m.amount) ∧
      (∀ d ∈ t.ownDates, FourDigitYear d.year) ∧ (∀ m ∈ t.months, FourDigitYear m.year) ∧
      (∀ n ∈ t.counts, 1 ≤ n) ∧ (∀ s ∈ t.texts, s ≠ "" ∧ Text.trim s = s) ∧
      ∀ spec ∈ t.limit?, spec.Typeable := by
  constructor
  · intro h
    refine ⟨fun m hm => h.fits m (List.mem_append_left _ hm),
      fun d hd => h.dates d (List.mem_append_left _ hd), h.months, h.one_le, h.texts,
      fun spec hspec => ?_⟩
    have hmem : spec ∈ t.limit?.toList := Option.mem_toList.mpr hspec
    refine ⟨h.fits _ (List.mem_append_right _ (List.mem_map_of_mem hmem)), fun d hd => ?_,
      h.weekly spec hspec⟩
    exact h.dates d (List.mem_append_right _ (List.mem_filterMap.mpr ⟨spec, hmem, hd⟩))
  · rintro ⟨hfits, hdates, hmonths, hcounts, htexts, hlimit⟩
    refine ⟨fun m hm => ?_, fun d hd => ?_, hmonths, hcounts, htexts,
      fun spec hspec => (hlimit spec hspec).weekly⟩
    · rcases List.mem_append.mp hm with hm | hm
      · exact hfits m hm
      · obtain ⟨spec, hspec, rfl⟩ := List.mem_map.mp hm
        exact (hlimit spec (Option.mem_toList.mp hspec)).fits
    · rcases List.mem_append.mp hd with hd | hd
      · exact hdates d hd
      · obtain ⟨spec, hspec, hstart⟩ := List.mem_filterMap.mp hd
        exact (hlimit spec (Option.mem_toList.mp hspec)).start d hstart

/-! ## Limits -/

theorem LimitForm.checkPeriod_ofSpec (spec : SpendingLimit) :
    (LimitForm.ofSpec spec).checkPeriod = .ok spec.period := by
  unfold checkPeriod
  show Check.map _ (Field.limitPeriod.optionalChoice _ _ spec.period.word) = _
  rw [(Field.limitPeriod.reads_optionalChoice LimitPeriod.chooses).eq_ok_some
    (Field.prints_limitPeriod spec.period) trivial]
  rfl

/-- A limit's texts give the limit back if it can be typed. -/
@[simp] theorem LimitForm.gives_compile {spec : SpendingLimit} {p : SpendingLimit → Prop} :
    (LimitForm.ofSpec spec).compile.Gives p ↔ spec.Typeable ∧ p spec.normalize := by
  have hstart : ∀ {q : Option Date → Prop}, (LimitForm.ofSpec spec).checkStart.Gives q ↔
      (∀ d ∈ spec.start, FourDigitYear d.year) ∧ q spec.start := by
    intro q
    show (Field.limitStart.optionalDate ((spec.start.map Date.toText).getD "")).Gives q ↔ _
    rw [Field.limitStart.reads_optionalDate.gives_getD_empty Field.prints_date, Option.map_id']
  unfold compile
  simp only [checkPeriod_ofSpec]
  by_cases hgap : spec.period = .weekly ∧ spec.start = none
  · -- the missing start is a problem whatever the other fields say
    have hnone : (LimitForm.ofSpec spec).checkStart = .ok none := by
      have hyears : ∀ d ∈ spec.start, FourDigitYear d.year := by
        rw [hgap.2]
        intro d hd
        cases hd
      obtain ⟨start, heq, hnone⟩ := (hstart (q := (· = none))).mpr ⟨hyears, hgap.2⟩
      rw [heq, hnone]
    rw [if_pos ⟨by rw [hgap.1], hnone⟩, Check.gives_addProblem]
    exact iff_of_false id fun h => h.1.weekly hgap.1 hgap.2
  · -- an unreadable start is not a missing one, so no problem is added
    have hcondition : ¬ (Check.ok spec.period = .ok .weekly ∧
        (LimitForm.ofSpec spec).checkStart = .ok none) := by
      rintro ⟨hweekly, hnone⟩
      have hgives := (hstart (q := (· = none))).mp ⟨none, hnone, rfl⟩
      exact hgap ⟨Check.ok.inj hweekly, hgives.2⟩
    rw [if_neg hcondition]
    simp only [Check.gives_map2, Check.gives_both, Check.gives_ok, hstart]
    show (Field.limitAmount.money spec.amount.toText).Gives _ ↔ _
    rw [Field.gives_money]
    constructor
    · rintro ⟨hfits, hyears, hp⟩
      exact ⟨⟨hfits, hyears, fun hweekly hnone => hgap ⟨hweekly, hnone⟩⟩, hp⟩
    · rintro ⟨htypeable, hp⟩
      exact ⟨htypeable.fits, htypeable.start, hp⟩

/-- The same for a limit that may be missing. -/
@[simp] theorem LimitToggle.gives_compile {lim : Option SpendingLimit}
    {p : Option SpendingLimit → Prop} :
    (LimitToggle.ofSpec lim).compile.Gives p ↔
      (∀ spec ∈ lim, spec.Typeable) ∧ p (lim.map SpendingLimit.normalize) := by
  cases lim with
  | none =>
    show (Check.ok none).Gives p ↔ _
    rw [Check.gives_ok]
    simp
  | some spec =>
    show ((LimitForm.ofSpec spec).compile.map some).Gives p ↔ _
    rw [Check.gives_map, LimitForm.gives_compile]
    simp

/-! ## Repetitions and intervals -/

/-- A repetition's texts give it back if its count is not zero. -/
@[simp] theorem TargetForm.gives_compileRepeat {amount : Money} {month : BudgetMonth}
    {fromMonth : Option BudgetMonth} {recurrence : Option Recurrence}
    {p : Option Recurrence → Prop} :
    (TargetForm.ofTarget amount month fromMonth recurrence).compileRepeat.Gives p ↔
      (∀ r ∈ recurrence, 1 ≤ r.every) ∧ p recurrence := by
  unfold compileRepeat
  cases recurrence with
  | none =>
    show (Check.ok none).Gives p ↔ _
    rw [Check.gives_ok]
    simp
  | some r =>
    show ((Check.both (Field.repeatAmount.optionalCount (Text.numeral r.every.toNat))
      (Field.repeatUnit.optionalChoice RepeatUnit.ofText RepeatUnit.choices r.unit.word)).andThen
        _).Gives p ↔ _
    rw [Check.gives_andThen, Check.gives_both,
      Field.repeatAmount.reads_optionalCount.gives_some_printed (Field.prints_count r.every),
      (Field.repeatUnit.reads_optionalChoice RepeatUnit.chooses).eq_ok_some
        (Field.prints_repeatUnit r.unit) trivial]
    simp

/-- So do those of an interval. -/
@[simp] theorem gives_compileInterval {period : Interval} {p : Interval → Prop} :
    (compileInterval (Text.numeral period.amount.toNat) period.period.word).Gives p ↔
      1 ≤ period.amount ∧ p period := by
  unfold compileInterval
  rw [Check.gives_map2,
    Field.repeatAmount.reads_optionalCount.gives_some_printed (Field.prints_count period.amount),
    (Field.repeatUnit.reads_optionalChoice PeriodUnit.chooses).eq_ok_some
      (Field.prints_periodUnit period.period) trivial, Check.gives_ok]
  rfl

/-! ## Whole forms -/

@[simp] theorem Money.normalize_normalize (m : Money) : m.normalize.normalize = m.normalize :=
  congrArg Money.mk (Decimal.normalize_normalize m.amount)

@[simp] theorem SpendingLimit.normalize_normalize (spec : SpendingLimit) :
    spec.normalize.normalize = spec.normalize := by
  unfold normalize
  simp only [Money.normalize_normalize]

/-- Texts that are read back as they are have text, and none around it. -/
theorem trim_eq_self_iff (s : String) :
    (Text.isBlank s = false ∧ Text.trim s = s) ↔ s ≠ "" ∧ Text.trim s = s := by
  constructor
  · rintro ⟨hblank, htrim⟩
    refine ⟨fun hempty => ?_, htrim⟩
    rw [hempty] at hblank
    cases hblank
  · rintro ⟨hne, htrim⟩
    refine ⟨?_, htrim⟩
    rw [Bool.eq_false_iff, Ne, Text.isBlank_iff_trim_eq_empty, htrim]
    exact hne

@[simp] theorem SpendingLimit.normalize_comp_normalize :
    SpendingLimit.normalize ∘ SpendingLimit.normalize = SpendingLimit.normalize := by
  funext spec
  exact spec.normalize_normalize

@[simp] theorem Decimal.normalize_comp_normalize :
    Decimal.normalize ∘ Decimal.normalize = Decimal.normalize := by
  funext x
  exact x.normalize_normalize

section

variable (amount : Money) (month : BudgetMonth) (fromMonth : Option BudgetMonth)
  (recurrence : Option Recurrence)

@[simp] theorem TargetForm.amount_ofTarget :
    (TargetForm.ofTarget amount month fromMonth recurrence).amount = amount.toText := rfl

@[simp] theorem TargetForm.month_ofTarget :
    (TargetForm.ofTarget amount month fromMonth recurrence).month = month.toText := rfl

@[simp] theorem TargetForm.fromMonth_ofTarget :
    (TargetForm.ofTarget amount month fromMonth recurrence).fromMonth =
      (fromMonth.map BudgetMonth.toText).getD "" := rfl

end

/-- A form gives its template back if the template can be typed. -/
theorem Form.gives_compile (t : Template) :
    (Form.ofTemplate t).compile.Gives (fun t' => t'.normalize = t.normalize) ↔ t.Typeable := by
  rw [t.typeable_iff]
  cases t with
  | simple monthly lim => simp [ofTemplate, compile, Template.normalize]
  | percentage percent category previous =>
    simp [ofTemplate, compile, Template.normalize, ← trim_eq_self_iff]
  | periodic amount period starting lim => simp [ofTemplate, compile, Template.normalize]
  | saveBy amount month recurrence =>
    simp [ofTemplate, compile, TargetForm.compileSaveBy, Template.normalize]
  | spend amount month fromMonth recurrence =>
    simp [ofTemplate, compile, TargetForm.compileSpend, Template.normalize, and_assoc]
  | schedule name adjustment full =>
    simp [ofTemplate, compile, Template.normalize, ← trim_eq_self_iff]
  | average n => simp [ofTemplate, compile, Template.normalize]
  | copy n => simp [ofTemplate, compile, Template.normalize]
  | remainder weight lim => simp [ofTemplate, compile, Template.normalize]
  | limit spec => simp [ofTemplate, compile, Template.normalize]
  | goal amount => simp [ofTemplate, compile, Template.normalize]

/-! ## Directives -/

theorem Template.kind_normalize (t : Template) : t.normalize.kind = t.kind := by
  cases t <;> rfl

/-- A priority's text gives it back, if the kind takes one. -/
theorem Draft.checkPriority_ofDirective (id : String) (d : Directive) :
    checkPriority (ofDirective id d).kind (ofDirective id d).priority =
      .ok (if d.kind.hasPriority then d.priority else none) := by
  have hkind : (ofDirective id d).kind = d.kind := Form.kind_ofTemplate d.template
  unfold checkPriority
  rw [hkind]
  cases d.kind.hasPriority with
  | false => rfl
  | true =>
    rw [if_pos rfl, if_pos rfl]
    show Field.priority.optionalPriority
      ((d.priority.map fun p => Text.intNumeral p.toInt).getD "") =
      .ok d.priority
    cases d.priority with
    | none => exact Field.priority.reads_optionalPriority.eq_none_iff.mpr rfl
    | some n =>
      exact Field.priority.reads_optionalPriority.eq_ok_some (Field.prints_priority n) trivial

/-- A template makes a directive if it is the directive's template, and marker and priority are
those of its kind. -/
theorem Directive.equiv_ofTemplate_iff (t : Template) (d : Directive) :
    Directive.Equiv (.ofTemplate t (if d.kind.hasPriority then d.priority else none)) d ↔
      t.normalize = d.template.normalize ∧
        d.marker = d.kind.marker ∧ (d.kind.hasPriority = false → d.priority = none) := by
  unfold Directive.Equiv Directive.normalize Directive.ofTemplate
  rw [Directive.mk.injEq]
  constructor
  · rintro ⟨hmarker, hpriority, htemplate⟩
    -- the kind can be told from the normal form
    have hkind : t.kind = d.kind := by
      rw [← t.kind_normalize, htemplate, Template.kind_normalize]
      rfl
    rw [hkind] at hmarker hpriority
    refine ⟨htemplate, hmarker.symm, fun hnone => ?_⟩
    rw [hnone] at hpriority
    exact hpriority.symm
  · rintro ⟨htemplate, hmarker, hpriority⟩
    have hkind : t.kind = d.kind := by
      rw [← t.kind_normalize, htemplate, Template.kind_normalize]
      rfl
    refine ⟨by rw [hkind, hmarker], ?_, htemplate⟩
    rw [hkind]
    cases htakes : d.kind.hasPriority with
    | true => rfl
    | false => exact (hpriority htakes).symm

/-- **A directive survives editing exactly when it can be typed.** Compiling its draft succeeds and
gives the directive back, numbers compared by value, under these conditions and no others. -/
theorem Draft.compile_ofDirective_iff (id : String) (d : Directive) :
    (∃ d', (Draft.ofDirective id d).compile = .ok d' ∧ Directive.Equiv d' d) ↔ d.Typeable := by
  have hlabel : checkLabel (ofDirective id d).label = .ok () := rfl
  show (ofDirective id d).compile.Gives (fun d' => Directive.Equiv d' d) ↔ d.Typeable
  unfold compile
  rw [Check.gives_map2, hlabel, Check.gives_ok, Check.gives_both, checkPriority_ofDirective,
    Check.gives_ok, Check.gives_congr fun t => Directive.equiv_ofTemplate_iff t d,
    Check.gives_and_right]
  show (Form.ofTemplate d.template).compile.Gives _ ∧ _ ↔ _
  rw [Form.gives_compile]
  constructor
  · rintro ⟨htemplate, hmarker, hpriority⟩
    exact ⟨hmarker, hpriority, htemplate⟩
  · intro h
    exact ⟨h.template, h.marker, h.priority⟩

end BudgetNotes
