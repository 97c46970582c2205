import BudgetNotes.Proofs.Draft.Readers

/-!
# What compiling depends on

A form keeps texts that its kind does not use, such as those of a limit that is
switched off, and texts are pasted with white space around them. None of this is
compiled. A form compiles like the one that is built anew from its kind, its
switches and the texts of the fields that are asked for, without the white space
around them (`Form.ofTexts`); so two drafts that agree on these compile to the
same directive, or have the same problems.

> `Form.compile_ofTexts`, `Form.ofTexts_congr`: nothing but the texts that are
> asked for is in the form that is built anew.

Main statement: `Draft.compile_eq_of_agreesOnUsed`.
-/

namespace BudgetNotes

/-! ## Forms from texts -/

/-- What a form chooses apart from its limit. -/
@[simp] def Form.switch : Form → Bool
  | percentage _ _ previous => previous
  | schedule _ _ full => full
  | _ => false

/-- Whether the limit in use is held. -/
def Form.hold? (form : Form) : Option Bool := form.activeLimit?.map LimitForm.hold

/-- The form of a limit with the texts of its three fields. -/
def LimitForm.ofTexts (hold : Bool) (text : Field → String) : LimitForm where
  amount := text .limitAmount
  period := text .limitPeriod
  hold := hold
  start := text .limitStart

/-- A limit that is in use, or none. -/
def LimitToggle.ofTexts (text : Field → String) : Option Bool → LimitToggle
  | some hold => ⟨true, .ofTexts hold text⟩
  | none => off

/-- The month from which on is spent is asked for apart. -/
def TargetForm.ofTexts (text : Field → String) (fromMonth : String) : TargetForm where
  amount := text .amount
  month := text .month
  fromMonth := fromMonth
  repeatAmount := text .repeatAmount
  repeatUnit := text .repeatUnit

/-- The form of a kind with the texts that are asked for, and no others. -/
def Form.ofTexts (text : Field → String) (switch : Bool) (hold? : Option Bool) :
    TemplateKind → Form
  | .simple => simple (text .monthlyAmount) (.ofTexts text hold?)
  | .percentage => percentage (text .percent) (text .category) switch
  | .periodic =>
    periodic (text .amount) (text .startingDate) (text .repeatAmount) (text .repeatUnit)
      (.ofTexts text hold?)
  | .saveBy => saveBy (.ofTexts text "")
  | .spend => spend (.ofTexts text (text .fromMonth))
  | .schedule => schedule (text .scheduleName) (text .adjustment) switch
  | .average => average (text .numberOfMonths)
  | .copy => copy (text .lookBackMonths)
  | .remainder => remainder (text .weight) (.ofTexts text hold?)
  | .limit => limit (LimitToggle.ofTexts text hold?).form
  | .goal => goal (text .amount)

theorem LimitToggle.ofTexts_congr {hold? : Option Bool} {text text' : Field → String}
    (h : ∀ r ∈ if hold?.isSome then LimitForm.requirements else [],
      text r.field = text' r.field) : ofTexts text hold? = ofTexts text' hold? := by
  cases hold? with
  | none => rfl -- nothing typed for the limit is in it
  | some hold =>
    simp only [Option.isSome_some, if_true, LimitForm.requirements, List.forall_mem_cons,
      Requirement.field_must, Requirement.field_may] at h
    obtain ⟨hamount, hperiod, hstart, -⟩ := h
    unfold ofTexts LimitForm.ofTexts
    simp only [hamount, hperiod, hstart]

/-- Only texts that are asked for are in the form. -/
theorem Form.ofTexts_congr {kind : TemplateKind} {switch : Bool} {hold? : Option Bool}
    {text text' : Field → String}
    (h : ∀ r ∈ kind.formRequirements hold?.isSome, text r.field = text' r.field) :
    ofTexts text switch hold? kind = ofTexts text' switch hold? kind := by
  have hlimit : LimitToggle.ofTexts text hold? = LimitToggle.ofTexts text' hold? :=
    LimitToggle.ofTexts_congr fun r hr => h r (List.mem_append_right _ hr)
  have hown : ∀ r ∈ kind.ownRequirements, text r.field = text' r.field :=
    fun r hr => h r (List.mem_append_left _ hr)
  clear h
  cases kind with
  | limit => rw [ofTexts, ofTexts, hlimit]
  | _ =>
    -- every text of the form is one of those that the kind asks for
    simp only [TemplateKind.ownRequirements, TargetForm.repeatRequirements, List.cons_append,
      List.nil_append, List.forall_mem_cons, Requirement.field_must, Requirement.field_may] at hown
    simp [ofTexts, TargetForm.ofTexts, hown, hlimit]

/-! ## Compiling forms from texts -/

theorem LimitForm.compile_ofTexts {form : LimitForm} {text : Field → String}
    (hamount : text .limitAmount = Text.trim form.amount)
    (hperiod : text .limitPeriod = Text.trim form.period)
    (hstart : text .limitStart = Text.trim form.start) :
    (ofTexts form.hold text).compile = form.compile := by
  unfold compile checkPeriod checkStart ofTexts
  rw [hamount, hperiod, hstart, (Field.reads_money _).trim,
    (Field.reads_optionalChoice _ LimitPeriod.chooses).trim, (Field.reads_optionalDate _).trim]

theorem LimitToggle.compile_ofTexts {toggle : LimitToggle} {text : Field → String}
    (hamount : text .limitAmount = Text.trim toggle.form.amount)
    (hperiod : text .limitPeriod = Text.trim toggle.form.period)
    (hstart : text .limitStart = Text.trim toggle.form.start) :
    (ofTexts text (toggle.active?.map LimitForm.hold)).compile = toggle.compile := by
  unfold compile active?
  cases toggle.enabled with
  | false => rfl
  | true =>
    show (LimitForm.ofTexts toggle.form.hold text).compile.map some = toggle.form.compile.map some
    rw [LimitForm.compile_ofTexts hamount hperiod hstart]

theorem TargetForm.compileRepeat_ofTexts {target : TargetForm} {text : Field → String}
    (hamount : text .repeatAmount = Text.trim target.repeatAmount)
    (hunit : text .repeatUnit = Text.trim target.repeatUnit) (fromMonth : String) :
    (ofTexts text fromMonth).compileRepeat = target.compileRepeat := by
  unfold compileRepeat ofTexts
  rw [hamount, hunit, (Field.reads_optionalCount _).trim,
    (Field.reads_optionalChoice _ RepeatUnit.chooses).trim]

/-- White space around the fields of an interval does not count. -/
theorem compileInterval_trim (repeatAmount repeatUnit : String) :
    compileInterval (Text.trim repeatAmount) (Text.trim repeatUnit) =
      compileInterval repeatAmount repeatUnit := by
  unfold compileInterval
  rw [(Field.reads_optionalCount _).trim, (Field.reads_optionalChoice _ PeriodUnit.chooses).trim]

/-- A form compiles like the one of its texts without the white space around them. -/
theorem Form.compile_ofTexts (form : Form) :
    (ofTexts (fun field => Text.trim (form.text field)) form.switch form.hold? form.kind).compile =
      form.compile := by
  unfold hold?
  cases form with
  | simple monthly lim =>
    simp only [kind, ofTexts, compile, activeLimit?, toggle?, Option.bind_some]
    rw [LimitToggle.compile_ofTexts rfl rfl rfl, text, (Field.reads_money _).trim]
  | percentage percent category previous =>
    simp only [kind, ofTexts, compile, text, switch]
    rw [(Field.reads_decimal _).trim, (Field.reads_text _).trim]
  | periodic amount starting repeatAmount repeatUnit lim =>
    simp only [kind, ofTexts, compile, activeLimit?, toggle?, Option.bind_some]
    rw [LimitToggle.compile_ofTexts rfl rfl rfl, text, text, text, text, (Field.reads_money _).trim,
      (Field.reads_date _).trim, compileInterval_trim]
  | saveBy target =>
    simp only [kind, ofTexts, compile, TargetForm.compileSaveBy]
    rw [TargetForm.compileRepeat_ofTexts rfl rfl]
    simp only [TargetForm.ofTexts, text, TargetForm.text]
    rw [(Field.reads_money _).trim, (Field.reads_budgetMonth _).trim]
  | spend target =>
    simp only [kind, ofTexts, compile, TargetForm.compileSpend]
    rw [TargetForm.compileRepeat_ofTexts rfl rfl]
    simp only [TargetForm.ofTexts, text, TargetForm.text]
    rw [(Field.reads_money _).trim, (Field.reads_budgetMonth _).trim,
      (Field.reads_optionalMonth _).trim]
  | schedule name adjustment full =>
    simp only [kind, ofTexts, compile, text, switch]
    rw [(Field.reads_text _).trim, (Field.reads_optionalDecimal _).trim]
  | average n =>
    simp only [kind, ofTexts, compile, text]
    rw [(Field.reads_count _).trim]
  | copy n =>
    simp only [kind, ofTexts, compile, text]
    rw [(Field.reads_count _).trim]
  | remainder weight lim =>
    simp only [kind, ofTexts, compile, activeLimit?, toggle?, Option.bind_some]
    rw [LimitToggle.compile_ofTexts rfl rfl rfl, text, (Field.reads_optionalDecimal _).trim]
  | limit form =>
    simp only [kind, ofTexts, compile, activeLimit?, Option.map_some, LimitToggle.ofTexts]
    rw [LimitForm.compile_ofTexts rfl rfl rfl]
  | goal amount =>
    simp only [kind, ofTexts, compile, text]
    rw [(Field.reads_money _).trim]

/-! ## Drafts -/

namespace Draft

/-- Two drafts that say the same where their kind looks. Blank lines around a label do not count as
gaps, and what is typed for a limit counts only while the limit is in use. -/
structure AgreesOnUsed (draft other : Draft) : Prop where
  kind : draft.kind = other.kind
  label : labelHasGap draft.label = labelHasGap other.label
  switch : draft.form.switch = other.form.switch
  /-- Both limits are in use and held alike, or neither is in use. -/
  hold : draft.form.hold? = other.form.hold?
  text : ∀ r ∈ draft.requirements, Text.trim (draft.text r.field) = Text.trim (other.text r.field)

namespace AgreesOnUsed

variable {draft other : Draft}

/-- The forms compile alike, since both are built anew from the same texts. -/
theorem form_compile_eq (h : draft.AgreesOnUsed other) :
    draft.form.compile = other.form.compile := by
  have htext : ∀ r ∈ draft.kind.formRequirements draft.form.hold?.isSome,
      Text.trim (draft.form.text r.field) = Text.trim (other.form.text r.field) := by
    intro r hr
    have hne := draft.kind.field_ne_priority _ r hr
    rw [Form.hold?, Option.isSome_map] at hr
    rw [← draft.text_of_ne_priority hne, ← other.text_of_ne_priority hne]
    exact h.text r (List.mem_append_right _ hr)
  have hkind : draft.form.kind = other.form.kind := h.kind
  have hforms : Form.ofTexts (fun field => Text.trim (draft.form.text field)) draft.form.switch
      draft.form.hold? draft.form.kind =
        Form.ofTexts (fun field => Text.trim (other.form.text field)) draft.form.switch
          draft.form.hold? draft.form.kind :=
    Form.ofTexts_congr htext
  rw [← draft.form.compile_ofTexts, hforms, h.switch, h.hold, hkind, other.form.compile_ofTexts]

/-- A priority counts for a kind that takes one, and then its text is asked for. -/
theorem checkPriority_eq (h : draft.AgreesOnUsed other) :
    checkPriority draft.kind draft.priority = checkPriority other.kind other.priority := by
  unfold checkPriority
  rw [← h.kind]
  split
  next htakes =>
    have hmem : Requirement.may .priority .priority ∈ draft.requirements := by
      unfold requirements TemplateKind.requirements
      rw [if_pos htakes]
      exact List.mem_cons_self ..
    have htext := h.text _ hmem
    rw [Requirement.field_may, text_priority, text_priority] at htext
    rw [← (Field.reads_optionalPriority _).trim, htext, (Field.reads_optionalPriority _).trim]
  next => rfl

end AgreesOnUsed

variable {draft other : Draft}

/-- **What a kind does not use has no influence.** The drafts compile to the same directive, or
have the same problems. -/
theorem compile_eq_of_agreesOnUsed (h : draft.AgreesOnUsed other) :
    draft.compile = other.compile := by
  unfold compile checkLabel
  rw [h.label, h.checkPriority_eq, h.form_compile_eq]

/-- A limit that is off, a month that is not asked for, a priority without use and white space. -/
theorem compile_eq_of_stale :
    let off : LimitToggle := ⟨false, ⟨"", "", false, ""⟩⟩
    let stale : LimitToggle := ⟨false, ⟨"1.234", "hourly", true, "today"⟩⟩
    let draft : Draft := ⟨"a", none, "Rest\n", "", .remainder "2" off⟩
    let other : Draft := ⟨"b", some 3, "", "urgent", .remainder "\t2 " stale⟩
    let draft' : Draft := ⟨"a", none, "", "1", .saveBy ⟨"90", "2025-06", "", "", ""⟩⟩
    let other' : Draft := ⟨"b", none, "Trip", " 1", .saveBy ⟨"90", " 2025-06 ", "June", "", " "⟩⟩
    draft.AgreesOnUsed other ∧ draft'.AgreesOnUsed other' ∧
    other.compile = .ok (.ofTemplate (.remainder ⟨false, 2, 0, by decide, by decide⟩ none) none) ∧
    draft.compile = other.compile ∧ draft'.compile = other'.compile := by
  intro off stale draft other draft' other'
  have h : draft.AgreesOnUsed other := ⟨rfl, by decide, rfl, rfl, by decide⟩
  have h' : draft'.AgreesOnUsed other' := ⟨rfl, by decide, rfl, rfl, by decide⟩
  exact ⟨h, h', by decide +kernel, compile_eq_of_agreesOnUsed h, compile_eq_of_agreesOnUsed h'⟩

end Draft

end BudgetNotes
