import BudgetNotes.Proofs.Draft.WellFormed
import BudgetNotes.Proofs.Storage.Entries

/-!
# Drafts make normal forms

A draft shows the numbers of a directive in normal form, so it does not tell how
they were written, and it compiles to the directive with all numbers in normal
form. What was compiled can be typed, and can be stored. So once a directive was
compiled, storing, loading and compiling it again changes it no more than that,
and a second time not at all.

> `Form.ofTemplate_normalize`: templates with the same numbers have one form.

Main statements: `Draft.typeable_of_compile` and `Draft.compile_ofTemplate`.
-/

namespace BudgetNotes

/-! ## Normal forms -/

/-- Numbers in normal form stay as they are. -/
@[simp] theorem Template.normalize_normalize (t : Template) :
    t.normalize.normalize = t.normalize := by
  cases t <;> simp [normalize]

@[simp] theorem Directive.normalize_normalize (d : Directive) :
    d.normalize.normalize = d.normalize := by
  unfold normalize
  rw [Template.normalize_normalize]

/-! ## Forms of normal forms -/

/-- An amount is shown in normal form, so its text does not tell how it was written. -/
theorem Money.toText_normalize (m : Money) : m.normalize.toText = m.toText := by
  unfold toText normalize
  rw [Decimal.normalize_normalize]

theorem LimitForm.ofSpec_normalize (spec : SpendingLimit) :
    ofSpec spec.normalize = ofSpec spec := by
  unfold ofSpec SpendingLimit.normalize
  rw [Money.toText_normalize]

theorem LimitToggle.ofSpec_normalize (lim : Option SpendingLimit) :
    ofSpec (lim.map SpendingLimit.normalize) = ofSpec lim := by
  cases lim with
  | none => rfl
  | some spec =>
    rw [Option.map_some, ofSpec, LimitForm.ofSpec_normalize]
    rfl

theorem TargetForm.ofTarget_normalize (amount : Money) (month : BudgetMonth)
    (fromMonth : Option BudgetMonth) (recurrence : Option Recurrence) :
    ofTarget amount.normalize month fromMonth recurrence =
      ofTarget amount month fromMonth recurrence := by
  unfold ofTarget
  rw [Money.toText_normalize]

/-- A form does not tell how numbers were written. -/
theorem Form.ofTemplate_normalize (t : Template) : ofTemplate t.normalize = ofTemplate t := by
  cases t <;> simp [Template.normalize, ofTemplate, Money.toText_normalize,
    LimitForm.ofSpec_normalize, LimitToggle.ofSpec_normalize, TargetForm.ofTarget_normalize,
    Function.comp_def]

/-- Directives that agree up to numbers' writing have one form. -/
theorem Form.ofTemplate_congr {t t' : Template} (h : t.normalize = t'.normalize) :
    ofTemplate t = ofTemplate t' := by
  rw [← ofTemplate_normalize t, h, ofTemplate_normalize]

/-! ## Compiling what can be typed -/

/-- The form of a template compiles to its normal form, if it can be typed. -/
theorem Form.compile_ofTemplate {t : Template} (h : t.Typeable) :
    (ofTemplate t).compile = .ok t.normalize := by
  suffices hgives : (ofTemplate t).compile.Gives fun t' => t' = t.normalize by
    obtain ⟨t', hcompile, rfl⟩ := hgives
    exact hcompile
  rw [t.typeable_iff] at h
  cases t with
  | simple monthly lim => simpa [ofTemplate, compile, Template.normalize] using h
  | percentage percent category previous =>
    simpa [ofTemplate, compile, Template.normalize, ← trim_eq_self_iff] using h
  | periodic amount period starting lim =>
    simpa [ofTemplate, compile, Template.normalize] using h
  | saveBy amount month recurrence =>
    simpa [ofTemplate, compile, TargetForm.compileSaveBy, Template.normalize] using h
  | spend amount month fromMonth recurrence =>
    simpa [ofTemplate, compile, TargetForm.compileSpend, Template.normalize, and_assoc] using h
  | schedule name adjustment full =>
    simpa [ofTemplate, compile, Template.normalize, ← trim_eq_self_iff] using h
  | average n => simpa [ofTemplate, compile, Template.normalize] using h
  | copy n => simpa [ofTemplate, compile, Template.normalize] using h
  | remainder weight lim => simpa [ofTemplate, compile, Template.normalize] using h
  | limit spec => simpa [ofTemplate, compile, Template.normalize] using h
  | goal amount => simpa [ofTemplate, compile, Template.normalize] using h

/-- A draft with the texts of a directive compiles to its normal form, if the directive can be typed
and no blank line splits the draft's label. -/
theorem Draft.compile_ofTemplate {d : Directive} (h : d.Typeable) {draft : Draft}
    (hform : draft.form = .ofTemplate d.template)
    (hpriority : draft.priority = (ofDirective draft.id d).priority)
    (hlabel : labelHasGap draft.label = false) : draft.compile = .ok d.normalize := by
  have hchecked : checkLabel draft.label = .ok () := by
    unfold checkLabel
    rw [hlabel, if_neg Bool.false_ne_true]
  have hkind : draft.kind = (ofDirective draft.id d).kind := congrArg Form.kind hform
  have hnormal : Directive.ofTemplate d.template.normalize
      (if d.kind.hasPriority then d.priority else none) = d.normalize := by
    have hequiv := (Directive.equiv_ofTemplate_iff d.template.normalize d).mpr
      ⟨d.template.normalize_normalize, h.marker, h.priority⟩
    unfold Directive.Equiv at hequiv
    rw [← hequiv]
    unfold Directive.normalize Directive.ofTemplate
    rw [Template.normalize_normalize]
  unfold compile
  rw [hchecked, hkind, hpriority, checkPriority_ofDirective, hform,
    Form.compile_ofTemplate h.template]
  exact congrArg Check.ok hnormal

/-! ## What was compiled -/

/-- A directive that was compiled can be typed. -/
theorem Draft.typeable_of_compile {draft : Draft} {d : Directive} (h : draft.compile = .ok d) :
    d.Typeable := by
  have hparts : draft.compile.Ensures Directive.Typeable := by
    refine (Check.ensures_true (checkLabel draft.label)).map2
      ((Check.ensures_true (checkPriority draft.kind draft.priority)).both
        draft.form.ensures_compile) ?_
    rintro _ ⟨priority, t⟩ _ ⟨_, ht⟩
    exact ⟨rfl, Directive.ofTemplate_priority_eq_none priority, ht.typeable⟩
  exact hparts d h

/-- The normal form of a directive can be typed if the directive can. -/
theorem Directive.Typeable.normalize {d : Directive} (h : d.Typeable) : d.normalize.Typeable := by
  have hcompile : (Draft.ofDirective "" d).compile = .ok d.normalize :=
    Draft.compile_ofTemplate h rfl rfl rfl
  exact Draft.typeable_of_compile hcompile

/-- What can be typed can be stored. -/
theorem Template.Typeable.storable {t : Template} (h : t.Typeable) : t.Storable := by
  have hmonths := h.months
  cases t with
  | saveBy amount month recurrence => exact hmonths month (List.mem_cons_self ..)
  | spend amount month fromMonth recurrence =>
    refine ⟨hmonths month (List.mem_cons_self ..), fun m hm => hmonths m ?_⟩
    exact List.mem_cons_of_mem _ (Option.mem_toList.mpr hm)
  | _ => trivial

end BudgetNotes
