import BudgetNotes.Proofs.Draft.Problems
import BudgetNotes.Proofs.Draft.Recording

/-!
# Every field is judged by itself

A field can only be told what is wrong with its own text, and is told once. So
what a user reads about a field does not change while another one is edited, and
no field hides the problems of those after it.

> `Draft.SameApartFrom.filter_problems`: two drafts with one text that differs.

Main statement: `Draft.judgesByParts`.
-/

namespace BudgetNotes

open Requirement

/-- A text that a user edits. -/
inductive Draft.Place where
  | label
  | field (field : Field)
deriving DecidableEq

namespace Problem

/-- The place that a problem is about, if it is about a single one. -/
def place? (p : Problem) : Option Draft.Place :=
  if p = .blankLineInLabel then some .label else p.field?.map .field

/-- Whether a problem is about a single place, and another one. -/
def isElsewhere (place : Draft.Place) (p : Problem) : Bool := p.place?.any (· ≠ place)

theorem place?_of_field? {p : Problem} {field : Field} (h : p.field? = some field) :
    p.place? = some (.field field) := by
  unfold place?
  rw [if_neg, h, Option.map_some]
  rintro rfl
  cases h

theorem isElsewhere_of_place? {p : Problem} {place : Draft.Place} (h : p.place? = some place) :
    p.isElsewhere place = false := by
  unfold isElsewhere
  rw [h]
  simp

end Problem

/-- Two drafts of one kind whose limits are both in use or both not, and whose texts are the same
except at one place. -/
structure Draft.SameApartFrom (place : Draft.Place) (draft other : Draft) : Prop where
  kind : draft.kind = other.kind
  limit : draft.form.activeLimit?.isSome = other.form.activeLimit?.isSome
  label : place ≠ .label → draft.label = other.label
  text : ∀ field, place ≠ .field field → draft.text field = other.text field

/-- What a draft is told. -/
structure Draft.JudgesByParts (draft : Draft) : Prop where
  /-- First comes the label, then each field that is asked for, and what does not fit together. -/
  problems : draft.compile.problems =
    (labelProblem? draft.label).toList ++ judge draft.requirements draft.text ++
      draft.form.mismatches
  /-- No field is reported twice. -/
  once : (draft.compile.problems.filterMap Problem.field?).Nodup
  weekly : .weeklyLimitWithoutStart ∈ draft.compile.problems ↔
    ∃ limit ∈ draft.form.activeLimit?,
      LimitPeriod.ofText limit.period = .ok .weekly ∧ Text.isBlank limit.start = true
  repetition : .repeatWithoutUnit ∈ draft.compile.problems ↔
    ∃ target ∈ draft.form.target?,
      saysCount target.repeatAmount = true ∧ Text.isBlank target.repeatUnit = true
  /-- A pass that stops where a value is missing reports the same problems. -/
  onePass : draft.record = draft.compile.toExcept
  /-- Whatever is typed at one place, the problems of all others are the same. -/
  others : ∀ place other, draft.SameApartFrom place other →
    draft.compile.problems.filter (·.isElsewhere place) =
      other.compile.problems.filter (·.isElsewhere place)

/-! ## Problems and their places -/

namespace Requirement

/-- The fields that are reported are some of those that are asked for, in order. -/
theorem filterMap_field?_judge_sublist (rs : List Requirement) (text : Field → String) :
    ((judge rs text).filterMap Problem.field?).Sublist (rs.map Requirement.field) := by
  induction rs with
  | nil => exact List.Sublist.refl []
  | cons r rs ih =>
    rw [judge_cons, List.map_cons]
    cases hp : r.problem? (text r.field) with
    | none => exact ih.cons r.field
    | some p =>
      show (List.filterMap Problem.field? (p :: judge rs text)).Sublist _
      rw [List.filterMap_cons_some (field?_of_problem? hp)]
      exact ih.cons_cons r.field

/-- Away from one place only the texts of other fields count. -/
theorem filter_isElsewhere_judge {place : Draft.Place} {rs : List Requirement}
    {text text' : Field → String}
    (h : ∀ r ∈ rs, place ≠ .field r.field → text r.field = text' r.field) :
    (judge rs text).filter (·.isElsewhere place) =
      (judge rs text').filter (·.isElsewhere place) := by
  unfold judge
  rw [List.filter_filterMap, List.filter_filterMap]
  refine List.filterMap_congr fun r hr => ?_
  by_cases hplace : place = .field r.field
  · -- what is wrong at the place itself is left out, whatever its text is
    have hnone : ∀ raw, (r.problem? raw).filter (·.isElsewhere place) = none := by
      intro raw
      rw [Option.filter_eq_none_iff]
      intro p hp
      rw [hplace, Problem.isElsewhere_of_place? (Problem.place?_of_field? (field?_of_problem? hp))]
      exact Bool.false_ne_true
    rw [hnone, hnone]
  · rw [h r hr hplace]

end Requirement

namespace Draft

theorem nodup_filterMap_field? (draft : Draft) :
    (draft.compile.problems.filterMap Problem.field?).Nodup := by
  have hlabel : (labelProblem? draft.label).toList.filterMap Problem.field? = [] := by
    unfold labelProblem?
    cases labelHasGap draft.label with
    | true => rfl
    | false => rfl
  have hgaps : draft.form.mismatches.filterMap Problem.field? = [] := by
    rw [List.filterMap_eq_nil_iff]
    intro p hp
    rcases Form.mem_mismatches_iff.mp hp with ⟨rfl, _⟩ | ⟨rfl, _⟩
    · rfl
    · rfl
  rw [problems_compile, List.filterMap_append, List.filterMap_append, hlabel, hgaps,
    List.nil_append, List.append_nil]
  exact (filterMap_field?_judge_sublist _ _).nodup (TemplateKind.nodup_requirements _ _)

/-- Whatever is typed at one place, the problems of all others are the same. -/
theorem SameApartFrom.filter_problems {place : Draft.Place} {draft other : Draft}
    (h : draft.SameApartFrom place other) :
    draft.compile.problems.filter (·.isElsewhere place) =
      other.compile.problems.filter (·.isElsewhere place) := by
  have hgaps : ∀ form : Form, form.mismatches.filter (·.isElsewhere place) = [] := by
    intro form
    rw [List.filter_eq_nil_iff]
    intro p hp
    rcases Form.mem_mismatches_iff.mp hp with ⟨rfl, _⟩ | ⟨rfl, _⟩
    · exact Bool.false_ne_true
    · exact Bool.false_ne_true
  have hlabel : (labelProblem? draft.label).toList.filter (·.isElsewhere place) =
      (labelProblem? other.label).toList.filter (·.isElsewhere place) := by
    by_cases hplace : place = .label
    · have hnone : ∀ s, (labelProblem? s).toList.filter (·.isElsewhere place) = [] := by
        intro s
        rw [List.filter_eq_nil_iff]
        intro p hp
        rw [← Problem.eq_of_unless (Option.mem_toList.mp hp), hplace]
        decide
      rw [hnone, hnone]
    · rw [h.label hplace]
  have hfields : draft.requirements = other.requirements := by
    unfold requirements
    rw [h.kind, h.limit]
  rw [problems_compile, problems_compile]
  simp only [List.filter_append]
  rw [hgaps, hgaps, hlabel, hfields, filter_isElsewhere_judge fun r _ => h.text r.field]

/-- **Every field is judged by itself.** -/
theorem judgesByParts (draft : Draft) : draft.JudgesByParts where
  problems := draft.problems_compile
  once := draft.nodup_filterMap_field?
  weekly := by
    rw [draft.mem_problems_iff_of_field? rfl, Form.mem_mismatches_iff]
    simp
  repetition := by
    rw [draft.mem_problems_iff_of_field? rfl, Form.mem_mismatches_iff]
    simp
  onePass := draft.record_eq
  others _ _ h := h.filter_problems

/-- Nearly everything is wrong, and then the amount is typed. -/
theorem judgesByParts_periodic :
    let limit : LimitToggle := ⟨true, ⟨"1.234", "Weekly", false, " "⟩⟩
    let draft : Draft :=
      ⟨"a", none, "Rent\n\nflat", "high", .periodic "" "2025-02-30" "0" "fortnight" limit⟩
    let other : Draft :=
      ⟨"b", some 1, "Rent\n\nflat", "high", .periodic "120" "2025-02-30" "0" "fortnight" limit⟩
    let rest : List Problem :=
      [.invalidDate .startingDate, .notPositive .repeatAmount,
        .invalidChoice .repeatUnit ["day", "week", "month", "year"], .tooPrecise .limitAmount,
        .weeklyLimitWithoutStart]
    draft.compile.problems =
      .blankLineInLabel :: .notANumber .priority :: .required .amount :: rest ∧
    other.compile.problems = .blankLineInLabel :: .notANumber .priority :: rest ∧
    draft.SameApartFrom (.field .amount) other ∧
    draft.compile.problems.filter (·.isElsewhere (.field .amount)) =
      other.compile.problems.filter (·.isElsewhere (.field .amount)) := by
  intro limit draft other rest
  have hsame : draft.SameApartFrom (.field .amount) other := by
    refine ⟨rfl, rfl, fun _ => rfl, fun field hfield => ?_⟩
    cases field with
    | amount => exact absurd rfl hfield
    | _ => rfl
  exact ⟨by decide +kernel, by decide +kernel, hsame,
    draft.judgesByParts.others (.field .amount) other hsame⟩

end Draft

end BudgetNotes
